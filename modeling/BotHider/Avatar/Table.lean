import BotHider.Model.Avatar

/-!
# BotHider — the avatar table's keys

What the calls of `avatar_override.cpp` do to the data under each SteamID's key. A call
that succeeds changes the data of its own key, one that fails changes none.

`StringTable.Sound` — index 0 belongs to no SteamID and holds no data. No call changes
that, and on a sound table a round whose engine calls go through succeeds.
-/

namespace BotHider.Model

/-! ## Keys -/

theorem formatAvatarSteamId_injective : Function.Injective formatAvatarSteamId := by
  intro a b h
  have hdigits : Nat.toDigits 10 a.toNat = Nat.toDigits 10 b.toNat := by
    rw [← Nat.toList_repr, ← Nat.toList_repr]
    exact congrArg String.toList h
  apply UInt64.toNat_inj.mp
  rw [← Nat.ofDigitChars_toDigits (by omega) (Nat.le_refl 10) (n := a.toNat), hdigits,
    Nat.ofDigitChars_toDigits (by omega) (Nat.le_refl 10)]

/-- No SteamID's key is the sentinel's. -/
theorem formatAvatarSteamId_ne_sentinel (sid : UInt64) :
    formatAvatarSteamId sid ≠ kAvatarSentinel := by
  intro h
  have hmem : '_' ∈ (formatAvatarSteamId sid).toList := by
    rw [h]
    decide
  rw [formatAvatarSteamId, Nat.toList_repr] at hmem
  exact absurd (Nat.isDigit_of_mem_toDigits (by omega) (Nat.le_refl 10) hmem) (by decide)

namespace StringTable

variable {table : StringTable} {key : String} {index : Nat}

theorem data_cons (entry : String × Bytes) (table : StringTable) (key : String) :
    StringTable.data (entry :: table) key = if key = entry.1 then entry.2 else table.data key := by
  unfold StringTable.data
  rw [List.lookup_cons]
  by_cases h : key = entry.1
  · rw [if_pos h, beq_iff_eq.mpr h]
    rfl
  · rw [if_neg h, beq_eq_false_iff_ne.mpr h]

/-- A key that is not found holds no data. -/
theorem data_of_not_found (h : table.findStringIndex key = none) : table.data key = [] := by
  induction table with
  | nil => rfl
  | cons entry table ih =>
    unfold findStringIndex at h
    rw [List.findIdx?_cons] at h
    split at h
    · cases h
    · rename_i hne
      have hkey : key ≠ entry.1 := fun heq => hne (beq_iff_eq.mpr heq.symm)
      rw [data_cons, if_neg hkey]
      exact ih (Option.map_eq_none_iff.mp h)

/-- Setting the data of the index a key is found at changes that key's data only. -/
theorem data_modify (h : table.findStringIndex key = some index) (data : Bytes) (other : String) :
    StringTable.data (table.modify index fun entry => (entry.1, data)) other =
      if other = key then data else table.data other := by
  induction table generalizing index with
  | nil => cases h
  | cons entry table ih =>
    unfold findStringIndex at h
    rw [List.findIdx?_cons] at h
    split at h
    · rename_i heq
      obtain rfl := Option.some.inj h
      rw [List.modify_zero_cons, data_cons, data_cons, ← beq_iff_eq.mp heq]
      split <;> rfl
    · rename_i hne
      obtain ⟨i, hi, rfl⟩ := Option.map_eq_some_iff.mp h
      rw [List.modify_succ_cons, data_cons, data_cons, ih hi]
      by_cases hother : other = key
      · have hentry : other ≠ entry.1 := fun heq => hne (beq_iff_eq.mpr (heq.symm.trans hother))
        rw [if_neg hentry, if_pos hother, if_pos hother]
      · rw [if_neg hother, if_neg hother]

/-- Appending a key that is not there yet changes that key's data only. -/
theorem data_append (h : table.findStringIndex key = none) (data : Bytes) (other : String) :
    StringTable.data (table ++ [(key, data)]) other =
      if other = key then data else table.data other := by
  induction table with
  | nil =>
    rw [List.nil_append, data_cons]
  | cons entry table ih =>
    unfold findStringIndex at h
    rw [List.findIdx?_cons] at h
    split at h
    · cases h
    · rename_i hne
      rw [List.cons_append, data_cons, data_cons, ih (Option.map_eq_none_iff.mp h)]
      by_cases hother : other = key
      · have hentry : other ≠ entry.1 := fun heq => hne (beq_iff_eq.mpr (heq.symm.trans hother))
        rw [if_neg hentry, if_pos hother, if_pos hother]
      · rw [if_neg hother, if_neg hother]

/-- Index 0 is no SteamID's, and shows nothing. -/
def Sound (table : StringTable) : Prop :=
  ∀ entry, table.head? = some entry →
    entry.2 = [] ∧ ∀ sid, sid ≠ 0 → entry.1 ≠ formatAvatarSteamId sid

end StringTable

open StringTable

variable {table : StringTable} {sid : UInt64} {calls : TableCalls}

/-! ## Clearing -/

/-- A clear that succeeds empties its SteamID's key; one that fails changes no key. -/
theorem data_clear_key (table : StringTable) (sid : UInt64) (calls : TableCalls) (key : String) :
    (clearAvatarOverride table sid calls).2.data key =
      if (clearAvatarOverride table sid calls).1 = true ∧ key = formatAvatarSteamId sid then []
      else table.data key := by
  unfold clearAvatarOverride
  split
  · rename_i hnone
    split
    · rename_i h
      rw [h.2]
      exact data_of_not_found hnone
    · rfl
  · rfl
  · rename_i index _ hfound
    unfold setStringUserData
    cases calls.clear with
    | false => rfl
    | true =>
      simp only [if_true, true_and]
      exact data_modify hfound [] key

/-- The same among SteamIDs. -/
theorem data_clearAvatarOverride (table : StringTable) (sid : UInt64) (calls : TableCalls)
    (other : UInt64) :
    (clearAvatarOverride table sid calls).2.data (formatAvatarSteamId other) =
      if (clearAvatarOverride table sid calls).1 = true ∧ other = sid then []
      else table.data (formatAvatarSteamId other) := by
  simp only [data_clear_key, formatAvatarSteamId_injective.eq_iff]

/-! ## Writing -/

theorem data_reserveSentinel (table : StringTable) (calls : TableCalls) (key : String) :
    (reserveSentinel table calls).2.data key = table.data key := by
  unfold reserveSentinel
  split
  · rename_i hempty
    rw [List.length_eq_zero_iff.mp hempty]
    unfold addString
    dsimp only
    split
    · rw [data_append rfl]
      -- the sentinel holds no data, as when it was absent
      split <;> rfl
    · rfl
  · rfl

/-- Past the reservation of index 0 the table is not empty. -/
theorem length_reserveSentinel (h : (reserveSentinel table calls).1 = true) :
    0 < (reserveSentinel table calls).2.length := by
  unfold reserveSentinel at h ⊢
  split
  · rename_i hempty
    rw [if_pos hempty] at h
    unfold addString at h ⊢
    dsimp only at h ⊢
    split
    · simp
    · rename_i hfail
      rw [if_neg hfail] at h
      cases h
  · exact Nat.pos_of_ne_zero ‹_›

/-- A write that succeeds sets its SteamID's key; one that fails changes no key. -/
theorem data_set_key (table : StringTable) (sid : UInt64) (bytes : Bytes) (calls : TableCalls)
    (key : String) : (setAvatarOverride table sid bytes calls).2.data key =
      if (setAvatarOverride table sid bytes calls).1 = true ∧ key = formatAvatarSteamId sid then bytes
      else table.data key := by
  have hreserve := data_reserveSentinel table calls key
  unfold setAvatarOverride
  dsimp only
  split
  · exact hreserve
  · rename_i hreserved
    have hpos := length_reserveSentinel (by simpa using hreserved)
    split
    · exact hreserve
    · split
      · exact hreserve
      · rename_i index _ hfound
        unfold setStringUserData
        cases calls.set with
        | false => exact hreserve
        | true =>
          simp only [if_true, true_and]
          rw [data_modify hfound, hreserve]
      · rename_i hnone
        unfold addString
        cases calls.add with
        | false => exact hreserve
        | true =>
          simp only [if_true, hpos, decide_true, true_and]
          rw [data_append hnone, hreserve]

/-- The same among SteamIDs. -/
theorem data_setAvatarOverride (table : StringTable) (sid : UInt64) (bytes : Bytes)
    (calls : TableCalls) (other : UInt64) :
    (setAvatarOverride table sid bytes calls).2.data (formatAvatarSteamId other) =
      if (setAvatarOverride table sid bytes calls).1 = true ∧ other = sid then bytes
      else table.data (formatAvatarSteamId other) := by
  simp only [data_set_key, formatAvatarSteamId_injective.eq_iff]

/-! ## Sound tables -/

theorem sound_modify (h : table.Sound) {index : Nat} (hindex : index ≠ 0) (data : Bytes) :
    StringTable.Sound (table.modify index fun entry => (entry.1, data)) := by
  intro entry hentry
  refine h entry ?_
  cases table with
  | nil => simp at hentry
  | cons first table =>
    cases index with
    | zero => exact absurd rfl hindex
    | succ index => exact hentry

theorem sound_append (h : table.Sound) (hlength : 0 < table.length) (entry : String × Bytes) :
    StringTable.Sound (table ++ [entry]) := by
  intro first hfirst
  refine h first ?_
  cases table with
  | nil => exact absurd hlength (Nat.lt_irrefl 0)
  | cons first' table => exact hfirst

/-- On a sound table a SteamID's key is never found at index 0. -/
theorem found_ne_zero (h : table.Sound) (hsid : sid ≠ 0) :
    table.findStringIndex (formatAvatarSteamId sid) ≠ some 0 := by
  intro hfound
  cases table with
  | nil => cases hfound
  | cons entry table =>
    unfold findStringIndex at hfound
    rw [List.findIdx?_cons] at hfound
    split at hfound
    · rename_i heq
      exact (h entry rfl).2 sid hsid (beq_iff_eq.mp heq)
    · obtain ⟨i, -, hi⟩ := Option.map_eq_some_iff.mp hfound
      cases hi

theorem sound_clearAvatarOverride (h : table.Sound) (sid : UInt64) (calls : TableCalls) :
    (clearAvatarOverride table sid calls).2.Sound := by
  unfold clearAvatarOverride
  split
  · exact h
  · exact h
  · rename_i index hindex _
    unfold setStringUserData
    split
    · exact sound_modify h hindex []
    · exact h

/-- On a sound table a clear whose call goes through succeeds. -/
theorem clearAvatarOverride_of_sound (h : table.Sound) (hsid : sid ≠ 0)
    (hcalls : calls.clear = true) :
    (clearAvatarOverride table sid calls).1 = true := by
  unfold clearAvatarOverride
  split
  · rfl
  · rename_i hfound
    exact absurd hfound (found_ne_zero h hsid)
  · unfold setStringUserData
    rw [hcalls]
    rfl

theorem sound_reserveSentinel (h : table.Sound) (calls : TableCalls) :
    (reserveSentinel table calls).2.Sound := by
  unfold reserveSentinel
  split
  · rename_i hempty
    obtain rfl := List.length_eq_zero_iff.mp hempty
    unfold addString
    dsimp only
    split
    · intro entry hentry
      obtain rfl := Option.some.inj hentry
      exact ⟨rfl, fun sid _ hsid => formatAvatarSteamId_ne_sentinel sid hsid.symm⟩
    · exact h
  · exact h

theorem sound_setAvatarOverride (h : table.Sound) (sid : UInt64) (bytes : Bytes)
    (calls : TableCalls) : (setAvatarOverride table sid bytes calls).2.Sound := by
  have hreserve := sound_reserveSentinel h calls
  unfold setAvatarOverride
  dsimp only
  split
  · exact hreserve
  · rename_i hreserved
    split
    · exact hreserve
    · split
      · exact hreserve
      · rename_i index hindex _
        unfold setStringUserData
        split
        · exact sound_modify hreserve hindex bytes
        · exact hreserve
      · unfold addString
        cases calls.add with
        | false => exact hreserve
        | true =>
          exact sound_append hreserve (length_reserveSentinel (by simpa using hreserved)) _

/-- On a sound table a write whose calls go through succeeds. -/
theorem setAvatarOverride_of_sound (h : table.Sound) (hsid : sid ≠ 0) (bytes : Bytes) :
    (setAvatarOverride table sid bytes {}).1 = true := by
  have hsound := sound_reserveSentinel h {}
  have hreserved : (reserveSentinel table {}).1 = true := by
    unfold reserveSentinel
    split
    · rename_i hempty
      simp [addString, hempty]
    · rfl
  have hpos := length_reserveSentinel hreserved
  have hfallback : ((reserveSentinel table {}).2[0]?.map (·.2)).getD [] = [] := by
    cases hentry : (reserveSentinel table {}).2[0]? with
    | none => rfl
    | some entry => exact (hsound entry (List.head?_eq_getElem?.trans hentry)).1
  unfold setAvatarOverride
  dsimp only
  rw [hreserved, hfallback]
  simp only [Bool.not_true, Bool.false_eq_true, if_false, ne_eq, not_true_eq_false]
  split
  · rename_i hfound
    exact absurd hfound (found_ne_zero hsound hsid)
  · rfl
  · simp [addString, hpos]

end BotHider.Model
