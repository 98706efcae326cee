import BotHider.Flair.Accounts
import BotHider.Model.FlairTool

/-!
# BotHider — the flair generator keeps who the bots are

The tool reads the pool that the plugin loads and writes it back. It reads an account as the
plugin does (`tryReadAccountId_of_parseAccountId`), and an assignment changes a member in no
field that the loader looks at but the flair (`loadEntry_setFlair`). So the pool that the plugin
loads from any document of the loop is the pool of the input with other flairs, entry by entry,
each of them sent for that account; what had a flair is left alone unless asked for.
-/

namespace BotHider.Model

/-! ## Members -/

theorem lookup_setMember (key : String) (value : Json) (members : List (String × Json)) :
    (setMember key value members).lookup key = some value := by
  induction members with
  | nil => simp [setMember]
  | cons m members ih =>
    unfold setMember
    split
    · rename_i hk
      simp [hk]
    · rename_i hk
      rw [List.lookup_cons, beq_false_of_ne (Ne.symm hk)]
      exact ih

theorem lookup_setMember_of_ne {key other : String} (h : other ≠ key) (value : Json)
    (members : List (String × Json)) :
    (setMember key value members).lookup other = members.lookup other := by
  induction members with
  | nil =>
    rw [setMember, List.lookup_cons, beq_false_of_ne h]
  | cons m members ih =>
    unfold setMember
    split
    · rename_i hk
      subst hk
      rw [List.lookup_cons, List.lookup_cons, beq_false_of_ne h]
    · rw [List.lookup_cons, List.lookup_cons, ih]

theorem setMember_setMember (key : String) (value value' : Json) (members : List (String × Json)) :
    setMember key value' (setMember key value members) = setMember key value' members := by
  induction members with
  | nil => simp [setMember]
  | cons m members ih =>
    rw [setMember]
    split
    · rename_i hk
      simp [setMember, hk]
    · rename_i hk
      rw [setMember, if_neg hk, ih, setMember, if_neg hk]

/-- A member set to what it is. -/
theorem setMember_of_lookup {key : String} {value : Json} {members : List (String × Json)}
    (h : members.lookup key = some value) : setMember key value members = members := by
  induction members with
  | nil => cases h
  | cons m members ih =>
    unfold setMember
    split
    · rename_i hk
      rw [List.lookup_cons, hk, beq_self_eq_true] at h
      rw [← Option.some.inj h]
    · rename_i hk
      rw [List.lookup_cons, beq_false_of_ne (Ne.symm hk)] at h
      rw [ih h]

variable {root : Json} {item : Json} {flair : UInt32}

theorem get?_setFlair_of_ne {key : String} (h : key ≠ "scoreboard_flair") :
    (setFlair flair item).get? key = item.get? key := by
  cases item with
  | obj members => exact lookup_setMember_of_ne h _ members
  | _ => rfl

theorem setFlair_setFlair (flair flair' : UInt32) (item : Json) :
    setFlair flair' (setFlair flair item) = setFlair flair' item := by
  cases item with
  | obj members => exact congrArg Json.obj (setMember_setMember _ _ _ members)
  | _ => rfl

/-- Replacing the players, where there are any. -/
theorem withPlayers_cases (root : Json) (f : List (String × Json) → List (String × Json)) :
    (∃ members players, root = .obj members ∧ root.get? "players" = some (.obj players) ∧
        root.withPlayers f = .obj (setMember "players" (.obj (f players)) members)) ∨
      playersOf (some root) = [] ∧ root.withPlayers f = root := by
  cases root with
  | obj members =>
    unfold Json.withPlayers
    split
    · rename_i members players hroot hplayers
      obtain rfl := Json.obj.inj hroot
      exact Or.inl ⟨members, players, rfl, hplayers, rfl⟩
    · rename_i hnone
      refine Or.inr ⟨?_, rfl⟩
      unfold playersOf
      split
      · rename_i players hplayers
        exact absurd hplayers (hnone members players rfl)
      · rfl
  | null | bool | unsigned | integer | float | str | arr => exact Or.inr ⟨rfl, rfl⟩

theorem playersOf_of_get? {players : List (String × Json)}
    (h : root.get? "players" = some (.obj players)) : playersOf (some root) = players := by
  unfold playersOf
  rw [Option.bind_some, h]

theorem playersOf_withPlayers {f : List (String × Json) → List (String × Json)} (hf : f [] = []) :
    playersOf (some (root.withPlayers f)) = f (playersOf (some root)) := by
  rcases withPlayers_cases root f with ⟨members, players, -, hplayers, hwith⟩ | ⟨hnone, hwith⟩
  · rw [hwith, playersOf_of_get? hplayers, playersOf_of_get?]
    exact lookup_setMember _ _ members
  · rw [hwith, hnone, hf]

theorem get?_withPlayers_of_ne (f : List (String × Json) → List (String × Json)) {key : String}
    (h : key ≠ "players") : (root.withPlayers f).get? key = root.get? key := by
  rcases withPlayers_cases root f with ⟨members, players, rfl, -, hwith⟩ | ⟨-, hwith⟩
  · rw [hwith]
    exact lookup_setMember_of_ne h _ members
  · rw [hwith]

/-! ## Accounts and flairs, as both sides read them -/

/-- A text of digits is read as their value when it is in range. -/
theorem tryParseInteger_of_digits (maxValue : Nat) {text : List Char} (hne : text ≠ [])
    (hdigits : text.dropWhile Char.isDigit = [])
    (hmax : text.foldl (fun n c => n * 10 + (c.toNat - '0'.toNat)) 0 ≤ maxValue) :
    tryParseInteger maxValue text =
      some (text.foldl (fun n c => n * 10 + (c.toNat - '0'.toNat)) 0) := by
  have hall : text.takeWhile Char.isDigit = text := by
    have hsplit := List.takeWhile_append_dropWhile (p := Char.isDigit) (l := text)
    rwa [hdigits, List.append_nil] at hsplit
  obtain ⟨front, rest, rfl⟩ := List.exists_cons_of_ne_nil hne
  have hfront : front.isDigit = true :=
    List.mem_takeWhile_imp (hall.symm ▸ List.mem_cons_self : front ∈ _)
  have hspace : isIntegerSpace front = false := by
    -- a digit is above every space
    simp only [Char.isDigit, Bool.and_eq_true, decide_eq_true_eq, ge_iff_le] at hfront
    have hlow := UInt32.le_iff_toNat_le.mp hfront.1
    have hne : front ≠ ' ' := by
      rintro rfl
      exact absurd hlow (by decide)
    have hover : ¬ front ≤ '\r' := fun hle =>
      absurd (Nat.le_trans hlow (UInt32.le_iff_toNat_le.mp hle)) (by decide)
    simp [isIntegerSpace, hne, hover]
  have hsign : readSign (front :: rest) = (false, front :: rest) := by
    unfold readSign
    split
    · rename_i heq
      obtain ⟨rfl, -⟩ := List.cons.inj heq
      cases hfront
    · rename_i heq
      obtain ⟨rfl, -⟩ := List.cons.inj heq
      cases hfront
    · rfl
  have hskip : (front :: rest).dropWhile isIntegerSpace = front :: rest := by
    rw [List.dropWhile_cons, hspace, if_neg Bool.false_ne_true]
  unfold tryParseInteger
  rw [hskip, hsign]
  dsimp only
  rw [hall, hdigits, if_neg]
  rintro (hnil | hneg | hover | htail)
  · cases hnil
  · cases hneg.1
  · exact absurd hmax (Nat.not_le.mpr hover)
  · cases htail

/-- An account ID that the plugin accepts is the same to the tool. -/
theorem tryReadAccountId_of_parseAccountId {key : String} {accountId : UInt32}
    (h : parseAccountId key = some accountId) : tryReadAccountId key = some accountId := by
  unfold parseAccountId at h
  split at h
  · cases h
  · rename_i front rest hlist
    split at h
    · cases h
    · split at h
      · rename_i accountId' hchars
        split at h
        · rename_i hne
          obtain rfl := Option.some.inj h
          unfold fromChars at hchars
          dsimp only at hchars
          split at hchars
          · cases hchars
          · rename_i hvalid
            rw [not_or, not_le] at hvalid
            obtain ⟨hvalue, hdrop⟩ := Prod.mk.inj (Option.some.inj hchars)
            have hall := List.takeWhile_append_dropWhile (p := Char.isDigit) (l := front :: rest)
            rw [hdrop, List.append_nil] at hall
            rw [hall] at hvalue hvalid
            generalize hn : (front :: rest).foldl
              (fun n c => n * 10 + (c.toNat - '0'.toNat)) 0 = n at hvalue hvalid
            have hparse := tryParseInteger_of_digits (2 ^ 64 - 1) hvalid.1 hdrop (by omega)
            have hn0 : n ≠ 0 := by
              rintro rfl
              exact hne hvalue.symm
            unfold tryReadAccountId steamId64Base
            rw [hlist, hparse, hn]
            dsimp only
            have hlow : ¬ n ≥ 76561197960265728 := by omega
            rw [if_neg hlow, if_neg (by omega), hvalue]
        · cases h
      · cases h

/-- A member the plugin reads a flair from has one for the tool. -/
theorem flairField_of_readUInt32 (h : readUInt32 (item.get? "scoreboard_flair") = 0) :
    flairField item = 0 := by
  unfold flairField
  cases hnode : item.get? "scoreboard_flair" with
  | none => rfl
  | some node =>
    rw [hnode] at h
    cases node with
    | unsigned n =>
      show (if 0 ≤ n.toInt64 ∧ n.toInt64 ≤ 65535 then n.toInt64.toUInt64.toUInt32 else 0) = 0
      split
      · rename_i hrange
        have hle : n.toNat ≤ 2 ^ 32 - 1 := by
          have hlow := Int64.le_iff_toInt_le.mp hrange.1
          have hhigh := Int64.le_iff_toInt_le.mp hrange.2
          rw [Json.toInt_toInt64, Int.bmod_def] at hlow hhigh
          have hlt := n.toNat_lt
          change (0 : Int) ≤ _ at hlow
          change _ ≤ (65535 : Int) at hhigh
          split at hhigh <;> omega
        have hzero : n.toUInt32 = 0 := (if_pos hle).symm.trans h
        simpa using hzero
      · rfl
    | integer n =>
      show (if 0 ≤ n ∧ n ≤ 65535 then n.toUInt64.toUInt32 else 0) = 0
      split
      · rename_i hrange
        have hlow := Int64.le_iff_toInt_le.mp hrange.1
        have hhigh := Int64.le_iff_toInt_le.mp hrange.2
        change (0 : Int) ≤ _ at hlow
        change _ ≤ (65535 : Int) at hhigh
        have hread : UInt32.ofNat n.toInt.toNat = 0 :=
          (if_pos (show 0 ≤ n.toInt ∧ n.toInt ≤ 2 ^ 32 - 1 by omega)).symm.trans h
        have hmod : n.toInt.toNat % 2 ^ 32 = 0 := by
          rw [← UInt32.toNat_ofNat', hread]
          rfl
        have hzero : n = 0 := Int64.toInt_inj.mp (show n.toInt = 0 by omega)
        rw [hzero]
        rfl
      · rfl
    | null | bool | float | str | arr | obj => rfl

/-- What the plugin makes of a flair that was sent. -/
def admittedFlair (flair : UInt32) : UInt32 := if flair ≤ 65535 then flair else 0

theorem flairField_setFlair (members : List (String × Json)) (flair : UInt32) :
    flairField (setFlair flair (.obj members)) = admittedFlair flair := by
  have hget : (setFlair flair (.obj members)).get? "scoreboard_flair" =
      some (.unsigned flair.toUInt64) := lookup_setMember _ _ members
  have hint : flair.toUInt64.toInt64.toInt = flair.toNat := by
    rw [Json.toInt_toInt64, UInt32.toNat_toUInt64, Int.bmod_def]
    have hlt := flair.toNat_lt
    split <;> omega
  have hrange : (0 ≤ flair.toUInt64.toInt64 ∧ flair.toUInt64.toInt64 ≤ 65535) ↔ flair ≤ 65535 := by
    rw [Int64.le_iff_toInt_le, Int64.le_iff_toInt_le, UInt32.le_iff_toNat_le, hint]
    show ((0 : Int) ≤ _ ∧ _ ≤ (65535 : Int)) ↔ _ ≤ 65535
    omega
  unfold flairField admittedFlair
  rw [hget]
  show (if 0 ≤ flair.toUInt64.toInt64 ∧ flair.toUInt64.toInt64 ≤ 65535 then
    flair.toUInt64.toInt64.toUInt64.toUInt32 else 0) = _
  simp only [hrange]
  simp

/-- **Loader.** An assignment changes an entry in its flair and nothing else. -/
theorem loadEntry_setFlair (key : String) (item : Json) (flair : UInt32) :
    loadEntry key (setFlair flair item) =
      (loadEntry key item).map ({ · with scoreboardFlair := admittedFlair flair }) := by
  cases item with
  | obj members =>
    have hother : ∀ {other : String}, other ≠ "scoreboard_flair" →
        (setFlair flair (.obj members)).get? other = (Json.obj members).get? other :=
      get?_setFlair_of_ne
    have hname := @hother "player_name" (by decide)
    have hcode : crosshairField (setFlair flair (.obj members)) =
        crosshairField (.obj members) := by
      unfold crosshairField
      rw [hother (by decide)]
    have hclan : parseClanTag (setFlair flair (.obj members)) = parseClanTag (.obj members) := by
      unfold parseClanTag
      rw [hother (by decide), hother (by decide)]
    have hflair := flairField_setFlair members flair
    unfold setFlair at hname hcode hclan hflair ⊢
    unfold loadEntry
    dsimp only
    rw [hname, hcode, hclan, hflair]
    split
    · split
      · rfl
      · split
        · rfl
        · rfl
    · rfl
  | null | bool | unsigned | integer | float | str | arr => rfl

/-! ## The players, row by row -/

/-- What the loop may make of a member of `players`: nothing, or a flair that came for its
account, where it had none or was to be overwritten. -/
def Reflaired (overwrite : Bool) (Came : UInt32 → UInt32 → Prop) (m m' : String × Json) : Prop :=
  m'.1 = m.1 ∧ (m'.2 = m.2 ∨ ∃ accountId flair, tryReadAccountId m.1 = some accountId ∧
    (overwrite = true ∨ readUInt32 (m.2.get? "scoreboard_flair") = 0) ∧ Came accountId flair ∧
    m'.2 = setFlair flair m.2)

/-- A row that may be asked for: it has this account, and no flair unless it is overwritten. -/
def Selectable (overwrite : Bool) (accountId : UInt32) (m : String × Json) : Prop :=
  tryReadAccountId m.1 = some accountId ∧
    (overwrite = true ∨ readUInt32 (m.2.get? "scoreboard_flair") = 0)

variable {overwrite : Bool} {Came : UInt32 → UInt32 → Prop} {players : List (String × Json)}
  {rows : List FlairRow}

theorem reflaired_refl (m : String × Json) : Reflaired overwrite Came m m := ⟨rfl, Or.inl rfl⟩

/-- A later assignment takes the place of an earlier one. -/
theorem Reflaired.setFlair {m m' : String × Json} (h : Reflaired overwrite Came m m')
    {accountId flair : UInt32} (hm : Selectable overwrite accountId m)
    (hcame : Came accountId flair) :
    Reflaired overwrite Came m (m'.1, Model.setFlair flair m'.2) := by
  refine ⟨h.1, Or.inr ⟨accountId, flair, hm.1, hm.2, hcame, ?_⟩⟩
  rcases h.2 with hsame | ⟨_, flair', -, -, -, hset⟩
  · exact congrArg (Model.setFlair flair) hsame
  · exact (congrArg (Model.setFlair flair) hset).trans (setFlair_setFlair flair' flair m.2)

theorem readEntry_selectable {row : Nat} {m : String × Json} {r : FlairRow}
    (h : readEntry overwrite row m.1 m.2 = .ok (some r)) :
    r.row = row ∧ Selectable overwrite r.accountId m := by
  unfold readEntry at h
  split at h
  · rename_i members accountId hitem haccount
    dsimp only at h
    split at h
    all_goals
      first
      | cases h
      | split at h
        · cases h
        · rename_i hselect
          obtain rfl := Option.some.inj (Except.ok.inj h)
          refine ⟨rfl, haccount, ?_⟩
          rw [hitem]
          cases overwrite with
          | true => exact Or.inl rfl
          | false => exact Or.inr (by simpa using hselect)
  · cases h

/-- The rows that are read are those of their members. -/
theorem readRows_selectable {row : Nat} (h : readRows overwrite row players = .ok rows) :
    ∀ r ∈ rows, row ≤ r.row ∧
      ∀ m, players[r.row - row]? = some m → Selectable overwrite r.accountId m := by
  induction players generalizing row rows with
  | nil =>
    obtain rfl := Except.ok.inj h
    exact fun r hr => nomatch hr
  | cons m players ih =>
    rw [readRows] at h
    split at h
    · cases h
    · rename_i entry hentry
      cases hrest : readRows overwrite (row + 1) players with
      | error e =>
        rw [hrest] at h
        cases h
      | ok rest =>
        rw [hrest] at h
        obtain rfl := Except.ok.inj h
        intro r hr
        rcases List.mem_append.mp hr with hhead | htail
        · obtain rfl := Option.mem_toList.mp hhead
          obtain ⟨hrow, hm⟩ := readEntry_selectable hentry
          refine ⟨hrow.ge, fun m' hm' => ?_⟩
          rw [hrow, Nat.sub_self] at hm'
          obtain rfl := Option.some.inj hm'
          exact hm
        · obtain ⟨hrow, hm⟩ := ih hrest r htail
          refine ⟨by omega, fun m' hm' => hm m' ?_⟩
          rwa [show r.row - row = r.row - (row + 1) + 1 by omega, List.getElem?_cons_succ] at hm'

theorem readEntries_selectable (h : readEntries root overwrite = .ok rows) :
    ∀ r ∈ rows, ∀ m, (playersOf (some root))[r.row]? = some m →
      Selectable overwrite r.accountId m := by
  unfold readEntries at h
  split at h
  · rename_i players hplayers
    rw [playersOf_of_get? hplayers]
    exact fun r hr => (readRows_selectable h r hr).2
  · cases h

theorem foldl_writeFlair_nil (assigned : List (FlairRow × FlairGenerator.BotEntry)) :
    assigned.foldl writeFlair [] = [] := by
  induction assigned with
  | nil => rfl
  | cons p assigned ih =>
    have hnil : writeFlair [] p = [] := by
      unfold writeFlair
      split
      · rfl
      · exact List.modify_nil _ _
    rw [List.foldl_cons, hnil, ih]

/-- Assignments of flairs that came for the accounts of their rows. -/
theorem forall₂_writeFlairs {players' : List (String × Json)}
    (h : List.Forall₂ (Reflaired overwrite Came) players players')
    {assigned : List (FlairRow × FlairGenerator.BotEntry)}
    (hrows : ∀ p ∈ assigned, ∀ m, players[p.1.row]? = some m →
      Selectable overwrite p.1.accountId m)
    (hcame : ∀ p ∈ assigned, ∀ flair, p.2.scoreboardFlair = some flair →
      Came p.1.accountId flair) :
    List.Forall₂ (Reflaired overwrite Came) players (assigned.foldl writeFlair players') := by
  induction assigned generalizing players' with
  | nil => exact h
  | cons p assigned ih =>
    refine ih ?_ (fun q hq => hrows q (List.mem_cons_of_mem _ hq))
      fun q hq => hcame q (List.mem_cons_of_mem _ hq)
    unfold writeFlair
    split
    · exact h
    · rename_i flair hflair
      refine Rows.forall₂_modify h fun m m' hm hold => ?_
      exact hold.setFlair (hrows p List.mem_cons_self m hm)
        (hcame p List.mem_cons_self flair hflair)

/-! ## The pool that the plugin loads -/

/-- Two entries of a pool are the same bot, with a flair that came for its account in the place
of one that may go. -/
def SamePersona (overwrite : Bool) (Came : UInt32 → UInt32 → Prop) (e e' : BotEntry) : Prop :=
  e' = e ∨ (overwrite = true ∨ e.scoreboardFlair = 0) ∧
    ∃ flair, Came e.accountId flair ∧ e' = { e with scoreboardFlair := admittedFlair flair }

theorem loadEntry_accountId {key : String} {e : BotEntry} (h : loadEntry key item = some e) :
    parseAccountId key = some e.accountId ∧ e.scoreboardFlair = flairField item := by
  unfold loadEntry at h
  split at h
  · split at h
    · rename_i haccount _
      split at h
      · cases h
      · dsimp only at h
        split at h
        · cases h
        · rw [← Option.some.inj h]
          exact ⟨haccount, rfl⟩
    · cases h
  · cases h

theorem Reflaired.loadEntry {m m' : String × Json} (h : Reflaired overwrite Came m m') :
    Option.Rel (SamePersona overwrite Came) (loadEntry m.1 m.2) (loadEntry m'.1 m'.2) := by
  rw [h.1]
  rcases h.2 with hsame | ⟨accountId, flair, haccount, hfree, hcame, hset⟩
  · rw [hsame]
    cases Model.loadEntry m.1 m.2 with
    | none => exact .none
    | some e => exact .some (Or.inl rfl)
  · rw [hset, loadEntry_setFlair]
    cases hload : Model.loadEntry m.1 m.2 with
    | none => exact .none
    | some e =>
      obtain ⟨hkey, hflair⟩ := loadEntry_accountId hload
      -- the tool has read the account that the plugin has
      obtain rfl := Option.some.inj
        ((tryReadAccountId_of_parseAccountId hkey).symm.trans haccount)
      refine .some (Or.inr ⟨hfree.imp_right fun hzero => ?_, flair, hcame, rfl⟩)
      rw [hflair, flairField_of_readUInt32 hzero]

theorem forall₂_load {document document' : Json} (now : UInt64)
    (h : List.Forall₂ (Reflaired overwrite Came) (playersOf (some document))
      (playersOf (some document'))) :
    List.Forall₂ (SamePersona overwrite Came)
      (BotInfoStore.load (some document.byKey) now).1.entries
      (BotInfoStore.load (some document'.byKey) now).1.entries := by
  have hsorted : List.Forall₂ (Reflaired overwrite Came) (playersOf (some document.byKey))
      (playersOf (some document'.byKey)) := by
    unfold Json.byKey
    rw [playersOf_withPlayers rfl, playersOf_withPlayers rfl]
    exact Rows.forall₂_insertionSort (· ≤ ·) h fun _ _ hm => hm.1
  exact List.rel_filterMap (fun _ _ hm => hm.loadEntry) hsorted

/-! ## Runs -/

/-- A step saves the entries as they are, or leaves what was saved. -/
theorem saved_advance (s : FlairGenerator) (canceled ok : Bool) :
    (s.advance canceled ok).program.saved = s.program.saved ∨
      (s.advance canceled ok).program.saved = s.program.entries := by
  unfold FlairGenerator.advance FlairPopulation.iterate FlairPopulation.resume
    FlairPopulation.write
  grind

/-- Each row, with what was saved or kept of its entry. -/
def RowsOf (rows : List FlairRow) (entries : List FlairGenerator.BotEntry) : Prop :=
  entries = [] ∨ entries.map (·.accountId) = rows.map (·.accountId)

theorem RowsOf.accountId {entries : List FlairGenerator.BotEntry} (h : RowsOf rows entries) :
    ∀ p ∈ rows.zip entries, p.2.accountId = p.1.accountId := by
  intro p hp
  rcases h with rfl | hmap
  · rw [List.zip_nil_right] at hp
    cases hp
  · obtain ⟨i, hi⟩ := List.getElem?_of_mem hp
    obtain ⟨hrow, hentry⟩ := List.getElem?_zip_eq_some.mp hi
    have hat := congrArg (·[i]?) hmap
    simpa [hrow, hentry] using hat

/-- Along every run the generator is sound for the responses that came, and what it saved has
the rows of the input. -/
theorem composed_run (rows : List FlairRow) (es : List FlairEvent) :
    let s := Runs.exec FlairGenerator.step (.start (rows.map (·.accountId))) es
    s.Sound (fun response => .client (.respond response) ∈ es) (rows.map (·.accountId)) ∧
      RowsOf rows s.program.saved := by
  intro s
  have hbrings : Runs.Admits FlairGenerator.step (fun _ e => ∀ event, e = .client event →
      Cs2GcClient.Brings (fun response => .client (.respond response) ∈ es) event)
      (.start (rows.map (·.accountId))) es := by
    refine Runs.admits_of_forall fun _ e he event hevent => ?_
    subst hevent
    cases event with
    | respond response => exact he
    | request | send | wait | leave | complete | failSession => trivial
  refine Runs.exec_invariant (I := fun s : FlairGenerator =>
      s.Sound (fun response => .client (.respond response) ∈ es) (rows.map (·.accountId)) ∧
        RowsOf rows s.program.saved)
    ⟨FlairGenerator.sound_start _, Or.inl rfl⟩ (fun s e h he => ⟨h.1.step he, ?_⟩) hbrings
  cases e with
  | client event => exact h.2
  | program canceled ok =>
    rcases saved_advance s canceled ok with hkept | hnew
    · exact (congrArg (RowsOf rows) hkept).mpr h.2
    · exact (congrArg (RowsOf rows) hnew).mpr (Or.inr h.1.accounts)

/-- Before anything was saved the document is the input. -/
theorem flairDocument_nil (input : Json) (rows : List FlairRow) :
    flairDocument input rows [] = input := by
  unfold flairDocument
  rw [List.zip_nil_right]
  rcases withPlayers_cases input fun players => List.foldl writeFlair players [] with
    ⟨members, players, rfl, hplayers, hwith⟩ | ⟨-, hwith⟩
  · rw [hwith]
    exact congrArg Json.obj (setMember_of_lookup hplayers)
  · exact hwith

/-- The document of entries whose flairs are their own is the input up to flairs. -/
theorem document_of_own {input : Json} {R : PlayersProfile → Prop}
    (hread : readEntries input overwrite = .ok rows) {entries : List FlairGenerator.BotEntry}
    (hrowsOf : RowsOf rows entries) (hown : FlairPopulation.OwnFlairs R entries) :
    List.Forall₂ (Reflaired overwrite (Delivered R)) (playersOf (some input))
      (playersOf (some (flairDocument input rows entries))) := by
  have hcame : ∀ p ∈ rows.zip entries, ∀ flair, p.2.scoreboardFlair = some flair →
      Delivered R p.1.accountId flair := by
    intro p hp flair hflair
    obtain ⟨i, hi⟩ := List.getElem?_of_mem (List.of_mem_zip hp).2
    rw [← hrowsOf.accountId p hp]
    exact hown i p.2 hi flair hflair
  have hdocument : playersOf (some (flairDocument input rows entries)) =
      (rows.zip entries).foldl writeFlair (playersOf (some input)) :=
    playersOf_withPlayers (foldl_writeFlair_nil _)
  rw [hdocument]
  exact forall₂_writeFlairs (List.forall₂_same.mpr fun m _ => reflaired_refl m)
    (fun p hp => readEntries_selectable hread p.1 (List.of_mem_zip hp).1) hcame

/-- **Documents.** In every state of every run, the document that the loop holds and the one it
saved last are the input up to flairs: outside `players` nothing differs, `players` keeps its
rows, and the plugin loads the same pool from it, each bot with its own flair or one that came
for its account, which without `--overwrite` takes the place of no other. -/
theorem documents_keep_personas {input : Json} {overwrite : Bool} {rows : List FlairRow}
    (hread : readEntries input overwrite = .ok rows) (es : List FlairEvent) (now : UInt64) :
    let s := Runs.exec FlairGenerator.step (.start (rows.map (·.accountId))) es
    let Came := Delivered fun response => .client (.respond response) ∈ es
    ∀ entries, entries = s.program.entries ∨ entries = s.program.saved →
      let document := flairDocument input rows entries
      (∀ key, key ≠ "players" → document.get? key = input.get? key) ∧
        List.Forall₂ (Reflaired overwrite Came) (playersOf (some input))
          (playersOf (some document)) ∧
        List.Forall₂ (SamePersona overwrite Came)
          (BotInfoStore.load (some input.byKey) now).1.entries
          (BotInfoStore.load (some document.byKey) now).1.entries := by
  intro s Came entries hentries document
  obtain ⟨hsound, hsaved⟩ := composed_run rows es
  have hplayers : List.Forall₂ (Reflaired overwrite Came) (playersOf (some input))
      (playersOf (some document)) := by
    rcases hentries with rfl | rfl
    · exact document_of_own hread (Or.inr hsound.accounts) hsound.entries
    · exact document_of_own hread hsaved hsound.saved
  exact ⟨fun key hkey => get?_withPlayers_of_ne _ hkey, hplayers, forall₂_load now hplayers⟩

/-! ### Two players

The first has no flair, and gets `970`; the second keeps its own. -/

def twoPlayers : Json :=
  .obj [("players", .obj
    [("1001", .obj [("player_name", .str [0x41])]),
      ("1002", .obj [("player_name", .str [0x42]), ("scoreboard_flair", .unsigned 7)])])]

/-- The answer for the first player, and the run up to its assignment. -/
def oneFlair : List FlairEvent :=
  [.program false true, .program false true, .client (.send 0 true),
    .client (.respond { accountProfiles := [
      { accountId := 1001, medals := some { featuredDisplayItemDefIndex := 970 } }] }),
    .client (.complete 0), .client (.wait 0 .completed), .client (.leave 0),
    .program false true, .program false true]

theorem documents_keep_personas_twoPlayers :
    let s := Runs.exec FlairGenerator.step (.start [1001]) oneFlair
    let document := flairDocument twoPlayers [{ row := 0, accountId := 1001 }] s.program.entries
    let pool := (BotInfoStore.load (some document.byKey) 1).1.entries
    pool.map (fun e => (e.accountId, e.scoreboardFlair)) = [(1001, 970), (1002, 7)] ∧
      List.Forall₂
        (SamePersona false (Delivered fun response => .client (.respond response) ∈ oneFlair))
        (BotInfoStore.load (some twoPlayers.byKey) 1).1.entries pool :=
  ⟨by decide, (@documents_keep_personas twoPlayers false [{ row := 0, accountId := 1001 }] rfl
    oneFlair 1 _ (Or.inl rfl)).2.2⟩

end BotHider.Model
