import BotHider.Flair.Documents
import BotHider.Lib.Sweep

/-!
# BotHider — flair documents as the plugin reads them

The plugin loads what `nlohmann::json` makes of the text on disk, in which the members of every
object are sorted. The loader looks members up by their keys, so it loads the same pool from a
document and from its sorted one (`load_sorted`). A document of the loop is one that a text can
be read as, when the input is (`wellFormed_flairDocument`).
-/

namespace BotHider.Model

/-! ## Sorted documents -/

theorem sortedMembers_eq (members : List (String × Json)) :
    Json.sortedMembers members = members.map fun m => (m.1, m.2.sorted) := by
  induction members with
  | nil => rfl
  | cons m members ih => rw [List.map_cons, ← ih]; rfl

theorem membersWellFormed_iff {members : List (String × Json)} :
    Json.MembersWellFormed members ↔ ∀ m ∈ members, m.2.WellFormed := by
  induction members with
  | nil => exact iff_of_true trivial fun _ h => nomatch h
  | cons m members ih =>
    rw [List.forall_mem_cons, ← ih]
    exact Iff.rfl

theorem lookup_map_sorted (members : List (String × Json)) (key : String) :
    (members.map fun m => (m.1, m.2.sorted)).lookup key =
      (members.lookup key).map Json.sorted := by
  induction members with
  | nil => rfl
  | cons m members ih =>
    rw [List.map_cons, List.lookup_cons, List.lookup_cons, ih]
    cases key == m.1 <;> rfl

variable {root item : Json}

/-- A member is found where it was, sorted itself. -/
theorem get?_sorted (h : item.WellFormed) (key : String) :
    item.sorted.get? key = (item.get? key).map Json.sorted := by
  cases item with
  | obj members =>
    have hkeys : ((Json.sortedMembers members).map Prod.fst).Nodup := by
      rw [sortedMembers_eq, List.map_map]
      exact h.1
    have hlookup := Rows.lookup_of_perm (List.perm_insertionSort
      (fun a b : String × Json => a.1 ≤ b.1) (Json.sortedMembers members)).symm hkeys key
    rw [sortedMembers_eq, lookup_map_sorted] at hlookup
    rw [← sortedMembers_eq] at hlookup
    exact hlookup.symm
  | null | bool | unsigned | integer | float | str | arr => rfl

theorem asSigned?_sorted (value : Json) : value.sorted.asSigned? = value.asSigned? := by
  cases value <;> rfl

theorem asUnsigned?_sorted (value : Json) : value.sorted.asUnsigned? = value.asUnsigned? := by
  cases value <;> rfl

/-- **Loader.** An entry is loaded from a member as from the sorted one. -/
theorem loadEntry_sorted (h : item.WellFormed) (key : String) :
    loadEntry key item.sorted = loadEntry key item := by
  cases item with
  | obj members =>
    have hget := get?_sorted h
    have hcode : crosshairField (Json.obj members).sorted = crosshairField (.obj members) := by
      unfold crosshairField
      rw [hget]
      cases (Json.obj members).get? "crosshair_code" with
      | none => rfl
      | some code => cases code <;> rfl
    have hflair : flairField (Json.obj members).sorted = flairField (.obj members) := by
      unfold flairField
      rw [hget]
      cases (Json.obj members).get? "scoreboard_flair" with
      | none => rfl
      | some flair => rw [Option.map_some, Option.bind_some, Option.bind_some, asSigned?_sorted]
    have hclan : parseClanTag (Json.obj members).sorted = parseClanTag (.obj members) := by
      have hgroup : ((Json.obj members).sorted.get? "clan_group_id").bind Json.asUnsigned? =
          ((Json.obj members).get? "clan_group_id").bind Json.asUnsigned? := by
        rw [hget]
        cases (Json.obj members).get? "clan_group_id" with
        | none => rfl
        | some groupId => exact asUnsigned?_sorted groupId
      unfold parseClanTag
      rw [hgroup, hget]
      cases (Json.obj members).get? "clan_tag" with
      | none => rfl
      | some tag => cases tag <;> rfl
    have hsorted : (Json.obj members).sorted =
        .obj ((Json.sortedMembers members).insertionSort fun a b => a.1 ≤ b.1) := rfl
    have hname := hget "player_name"
    rw [hsorted] at hname hcode hflair hclan ⊢
    unfold loadEntry
    dsimp only
    rw [hname, hcode, hflair, hclan]
    cases (Json.obj members).get? "player_name" with
    | none => rfl
    | some name =>
      cases parseAccountId key with
      | none => rfl
      | some accountId => cases name <;> rfl
  | null | bool | unsigned | integer | float | str | arr => rfl

/-- The members of `players`, as the loader iterates over them. -/
theorem playersOf_sorted (h : root.WellFormed) :
    playersOf (some root.sorted) =
      (Json.sortedMembers (playersOf (some root))).insertionSort fun a b => a.1 ≤ b.1 := by
  have hget := get?_sorted h "players"
  unfold playersOf
  rw [Option.bind_some, Option.bind_some, hget]
  cases root.get? "players" with
  | none => rfl
  | some players => cases players <;> rfl

theorem wellFormed_of_get? (h : root.WellFormed) {key : String} {value : Json}
    (hget : root.get? key = some value) : value.WellFormed := by
  cases root with
  | obj members =>
    obtain ⟨l₁, l₂, heq, -⟩ := List.lookup_eq_some_iff.mp hget
    exact membersWellFormed_iff.mp h.2 (key, value) (heq ▸ by simp)
  | null | bool | unsigned | integer | float | str | arr => cases hget

theorem wellFormed_of_playersOf (h : root.WellFormed) :
    ∀ m ∈ playersOf (some root), m.2.WellFormed := by
  intro m hm
  unfold playersOf at hm
  rw [Option.bind_some] at hm
  split at hm
  · rename_i players hplayers
    exact membersWellFormed_iff.mp (wellFormed_of_get? h hplayers).2 m hm
  · cases hm

/-- **Loader.** The pool of a document is loaded from what its text is read as. -/
theorem load_sorted (h : root.WellFormed) (now : UInt64) :
    BotInfoStore.load (some root.sorted) now = BotInfoStore.load (some root.byKey) now := by
  have hplayers : playersOf (some root.byKey) =
      (playersOf (some root)).insertionSort fun a b => a.1 ≤ b.1 := playersOf_withPlayers rfl
  have hmembers : List.Forall₂ (fun m m' : String × Json =>
      m'.1 = m.1 ∧ loadEntry m'.1 m'.2 = loadEntry m.1 m.2)
      (playersOf (some root)) (Json.sortedMembers (playersOf (some root))) := by
    rw [sortedMembers_eq, List.forall₂_map_right_iff]
    exact List.forall₂_same.mpr fun m hm =>
      ⟨rfl, loadEntry_sorted (wellFormed_of_playersOf h m hm) m.1⟩
  have hrows : List.Forall₂ (fun m m' : String × Json =>
      m'.1 = m.1 ∧ loadEntry m'.1 m'.2 = loadEntry m.1 m.2)
      (playersOf (some root.byKey)) (playersOf (some root.sorted)) := by
    rw [hplayers, playersOf_sorted h]
    exact Rows.forall₂_insertionSort (· ≤ ·) hmembers fun _ _ hm => hm.1
  have hentries : List.Forall₂ Eq (BotInfoStore.load (some root.byKey) now).1.entries
      (BotInfoStore.load (some root.sorted) now).1.entries := by
    refine List.rel_filterMap (fun m m' hm => ?_) hrows
    show Option.Rel Eq (loadEntry m.1 m.2) (loadEntry m'.1 m'.2)
    rw [hm.2]
    cases loadEntry m.1 m.2 with
    | none => exact .none
    | some e => exact .some rfl
  rw [List.forall₂_eq_eq_eq] at hentries
  unfold BotInfoStore.load at hentries ⊢
  dsimp only at hentries ⊢
  rw [hentries]

/-! ## Documents of the loop -/

theorem mem_setMember {key : String} {value : Json} {members : List (String × Json)}
    {m : String × Json} (h : m ∈ setMember key value members) : m = (key, value) ∨ m ∈ members := by
  induction members with
  | nil => exact Or.inl (List.mem_singleton.mp h)
  | cons m' members ih =>
    unfold setMember at h
    split at h
    · rename_i hk
      rcases List.mem_cons.mp h with rfl | hrest
      · exact Or.inl (Prod.ext hk rfl)
      · exact Or.inr (List.mem_cons_of_mem _ hrest)
    · rcases List.mem_cons.mp h with rfl | hrest
      · exact Or.inr List.mem_cons_self
      · exact (ih hrest).imp_right (List.mem_cons_of_mem _)

theorem nodup_setMember {members : List (String × Json)} (h : (members.map Prod.fst).Nodup)
    (key : String) (value : Json) : ((setMember key value members).map Prod.fst).Nodup := by
  induction members with
  | nil => exact List.nodup_singleton key
  | cons m members ih =>
    obtain ⟨hnew, hrest⟩ := List.nodup_cons.mp h
    unfold setMember
    split
    · exact h
    · rename_i hk
      refine List.nodup_cons.mpr ⟨fun hmem => ?_, ih hrest⟩
      obtain ⟨m', hm', heq⟩ := List.mem_map.mp hmem
      rcases mem_setMember hm' with rfl | hold
      · exact hk heq.symm
      · exact hnew (heq ▸ List.mem_map_of_mem hold)

/-- Setting a member keeps the others. -/
theorem wellFormed_setMember {members : List (String × Json)} (h : (Json.obj members).WellFormed)
    (key : String) {value : Json} (hvalue : value.WellFormed) :
    (Json.obj (setMember key value members)).WellFormed := by
  refine ⟨nodup_setMember h.1 key value, membersWellFormed_iff.mpr fun m hm => ?_⟩
  rcases mem_setMember hm with rfl | hold
  · exact hvalue
  · exact membersWellFormed_iff.mp h.2 m hold

theorem wellFormed_setFlair (h : item.WellFormed) (flair : UInt32) :
    (setFlair flair item).WellFormed := by
  cases item with
  | obj members => exact wellFormed_setMember h "scoreboard_flair" trivial
  | null | bool | unsigned | integer | float | str | arr => exact h

theorem wellFormed_writeFlair {players : List (String × Json)}
    (h : (Json.obj players).WellFormed) (entry : FlairRow × FlairGenerator.BotEntry) :
    (Json.obj (writeFlair players entry)).WellFormed := by
  unfold writeFlair
  split
  · exact h
  · rename_i flair _
    refine ⟨?_, membersWellFormed_iff.mpr fun m hm => ?_⟩
    · have hkeys := Rows.map_modify (l := players) (n := entry.1.row)
        (fun m : String × Json => (rfl : (m.1, setFlair flair m.2).1 = m.1))
      exact (congrArg List.Nodup hkeys).mpr h.1
    · obtain ⟨i, hi⟩ := List.getElem?_of_mem hm
      rw [List.getElem?_modify] at hi
      obtain ⟨m', hm', rfl⟩ := Option.map_eq_some_iff.mp hi
      have hold := membersWellFormed_iff.mp h.2 m' (List.mem_of_getElem? hm')
      split
      · exact wellFormed_setFlair hold flair
      · exact hold

/-- **Documents.** What the loop makes of a document that a text can be read as is another. -/
theorem wellFormed_flairDocument (h : root.WellFormed) (rows : List FlairRow)
    (entries : List FlairGenerator.BotEntry) : (flairDocument root rows entries).WellFormed := by
  unfold flairDocument
  rcases withPlayers_cases root fun players => (rows.zip entries).foldl writeFlair players with
    ⟨members, players, rfl, hplayers, hwith⟩ | ⟨-, hwith⟩
  · rw [hwith]
    refine wellFormed_setMember h "players" ?_
    exact Sweep.foldl_invariant (P := fun players => (Json.obj players).WellFormed)
      (wellFormed_of_get? h hplayers) fun players entry _ hwf => wellFormed_writeFlair hwf entry
  · rw [hwith]
    exact h

end BotHider.Model
