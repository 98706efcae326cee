import BotHider.Pool.Loading

/-!
# BotHider — handing out identities

`PickForBot` over any pool, assignment vector, generator state and set of occupied SteamIDs.

* `pickForBot_eq_none_iff` — a pick fails when every entry is assigned or occupied.
* `pickForBot_correct` — what a pick hands out and marks, and that releasing it restores the
  assignments.
-/

namespace BotHider.Model

variable {store : BotInfoStore} {engineName : Option Bytes} {occupied : List UInt64}

/-! ## The assignment vector -/

/-- The assignment vector has the pool's size. -/
def BotInfoStore.Sized (store : BotInfoStore) : Prop :=
  store.assigned.length = store.entries.length

theorem sized_load (document : Option Json) (now : UInt64) :
    (BotInfoStore.load document now).1.Sized := List.length_replicate

theorem BotInfoStore.Sized.releaseAssignment (h : store.Sized) (entry : Option Nat) :
    (store.releaseAssignment entry).Sized := by
  cases entry with
  | none => exact h
  | some i => exact (List.length_set ..).trans h

theorem BotInfoStore.Sized.resetAssignments (h : store.Sized) : store.resetAssignments.Sized :=
  (List.length_map _).trans h

theorem BotInfoStore.Sized.pickForBot (h : store.Sized) :
    (store.pickForBot engineName occupied).2.Sized := by
  rcases pickForBot_cases store engineName occupied with ⟨i, -, heq⟩ | ⟨-, heq⟩
  · rw [heq]
    exact (List.length_set ..).trans h
  · rw [heq]
    exact h

theorem BotInfoStore.Sized.lt {i : Nat} {e : BotEntry} (h : store.Sized)
    (he : store.entries[i]? = some e) : i < store.assigned.length := by
  rw [h]
  exact (List.getElem?_eq_some_iff.mp he).1

/-! ## A pick -/

/-- The entry at an index is unassigned and has a SteamID nobody has. -/
def BotInfoStore.Free (store : BotInfoStore) (occupied : List UInt64) (i : Nat) (e : BotEntry) :
    Prop :=
  store.entries[i]? = some e ∧ store.assigned[i]? = some false ∧ e.steamId64 ∉ occupied

/-- An assignment vector of the pool's size says of every entry whether it is assigned. -/
theorem available_iff (hsize : store.Sized) {i : Nat} :
    store.Available occupied i ↔ ∃ e, store.Free occupied i e := by
  constructor
  · rintro ⟨hfree, e, he, hocc⟩
    have hi : i < store.assigned.length := hsize.lt he
    rw [List.getElem?_eq_getElem hi] at hfree
    exact ⟨e, he, (List.getElem?_eq_getElem hi).trans (congrArg some hfree), hocc⟩
  · rintro ⟨e, he, hfree, hocc⟩
    exact ⟨by rw [hfree]; rfl, e, he, hocc⟩

theorem candidates_eq_nil_iff :
    store.candidates engineName occupied = [] ↔ ∀ i, ¬ store.Available occupied i := by
  constructor
  · intro hnil i hi
    -- an available entry of the engine's name, or else this one, is a candidate
    by_cases hnamed : ∃ j, store.Available occupied j ∧ store.Named engineName j
    · obtain ⟨j, hj, hjn⟩ := hnamed
      have hmem : j ∈ store.candidates engineName occupied := mem_candidates.mpr ⟨hj, fun _ => hjn⟩
      rw [hnil] at hmem
      cases hmem
    · have hmem : i ∈ store.candidates engineName occupied :=
        mem_candidates.mpr ⟨hi, fun h => absurd h hnamed⟩
      rw [hnil] at hmem
      cases hmem
  · intro hnone
    refine List.eq_nil_iff_forall_not_mem.mpr fun i hi => ?_
    exact hnone i (mem_candidates.mp hi).1

theorem pickForBot_eq_none_iff :
    (store.pickForBot engineName occupied).1 = none ↔ ∀ i, ¬ store.Available occupied i := by
  rw [← candidates_eq_nil_iff]
  rcases pickForBot_cases store engineName occupied with ⟨i, hi, heq⟩ | ⟨hnil, heq⟩
  · rw [heq]
    refine iff_of_false (fun h => by cases h) fun h => ?_
    rw [h] at hi
    cases hi
  · rw [heq]
    exact iff_of_true rfl hnil

theorem mem_candidates_of_pick {i : Nat}
    (hpick : (store.pickForBot engineName occupied).1 = some i) :
    i ∈ store.candidates engineName occupied := by
  rcases pickForBot_cases store engineName occupied with ⟨j, hj, heq⟩ | ⟨-, heq⟩
  · rw [heq] at hpick
    obtain rfl := Option.some.inj hpick
    exact hj
  · rw [heq] at hpick
    cases hpick

/-- **Picking.** A pick fails exactly when every entry is assigned or has an occupied SteamID,
and then leaves the store alone. Otherwise it hands out an unassigned, unoccupied entry, one of
the engine's name if there is any, and marks that entry only; releasing it restores the
assignments. -/
theorem pickForBot_correct (store : BotInfoStore) (engineName : Option Bytes)
    (occupied : List UInt64) (hsize : store.Sized) :
    let pick := store.pickForBot engineName occupied
    (pick.1 = none ↔ ∀ (i : Nat) (e : BotEntry), store.entries[i]? = some e →
      store.assigned[i]? = some true ∨ e.steamId64 ∈ occupied) ∧
    (pick.1 = none → pick.2 = store) ∧
    ∀ i, pick.1 = some i →
      (∃ e, store.Free occupied i e ∧
        ((∃ j e', store.Free occupied j e' ∧ engineName.map cstr = some e'.name) →
          engineName.map cstr = some e.name)) ∧
      pick.2.entries = store.entries ∧
      (∀ j, pick.2.assigned[j]? = if j = i then some true else store.assigned[j]?) ∧
      (pick.2.releaseAssignment (some i)).assigned = store.assigned := by
  dsimp only
  refine ⟨?_, pickForBot_none, fun i hpick => ?_⟩
  · rw [pickForBot_eq_none_iff]
    refine forall_congr' fun i => ?_
    rw [available_iff hsize]
    constructor
    · intro hnot e he
      have hi : i < store.assigned.length := hsize.lt he
      by_cases hocc : e.steamId64 ∈ occupied
      · exact Or.inr hocc
      · rw [List.getElem?_eq_getElem hi]
        cases hb : store.assigned[i] with
        | true => exact Or.inl rfl
        | false =>
          have hfree : store.assigned[i]? = some false := by
            rw [List.getElem?_eq_getElem hi, hb]
          exact absurd ⟨e, he, hfree, hocc⟩ hnot
    · rintro h ⟨e, he, hfree, hocc⟩
      rcases h e he with htaken | hin
      · rw [hfree] at htaken
        cases htaken
      · exact hocc hin
  · obtain ⟨-, hentries, hassigned⟩ := pickForBot_some hpick
    obtain ⟨havail, hnamed⟩ := mem_candidates.mp (mem_candidates_of_pick hpick)
    obtain ⟨e, he, hfree, hocc⟩ := (available_iff hsize).mp havail
    obtain ⟨hi, hget⟩ := List.getElem?_eq_some_iff.mp hfree
    refine ⟨⟨e, ⟨he, hfree, hocc⟩, ?_⟩, hentries, fun j => ?_, ?_⟩
    · rintro ⟨j, e', hfree', hname⟩
      obtain ⟨e'', he'', hname''⟩ :=
        hnamed ⟨j, (available_iff hsize).mpr ⟨e', hfree'⟩, e', hfree'.1, hname⟩
      rw [he] at he''
      rwa [← Option.some.inj he''] at hname''
    · rw [hassigned, List.getElem?_set]
      by_cases hj : i = j
      · rw [if_pos hj, if_pos hi, if_pos hj.symm]
      · rw [if_neg hj, if_neg (Ne.symm hj)]
    · unfold BotInfoStore.releaseAssignment
      dsimp only
      rw [hassigned, List.set_set, ← hget, List.set_getElem_self]

/-- Two identities; the first is assigned, and the second has the engine's name. -/
def halfAssigned : BotInfoStore where
  entries := [{ name := [0x41], steamId64 := 11 }, { name := [0x42], steamId64 := 12 }]
  assigned := [true, false]
  rngState := 1

theorem pickForBot_correct_half :
    (halfAssigned.pickForBot (some [0x42]) [11]).1 = some 1 ∧
      ((halfAssigned.pickForBot (some [0x42]) [11]).2.releaseAssignment (some 1)).assigned =
        [true, false] := by
  have hpick : (halfAssigned.pickForBot (some [0x42]) [11]).1 = some 1 := by decide +kernel
  exact ⟨hpick, ((pickForBot_correct halfAssigned (some [0x42]) [11] rfl).2.2 1 hpick).2.2.2⟩

end BotHider.Model
