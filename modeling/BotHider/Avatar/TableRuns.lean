import BotHider.Avatar.Table
import BotHider.Lib.Run

/-!
# BotHider — the override table is a map

Over any history of `SetAvatarOverride` and `ClearAvatarOverride` calls, whichever engine
calls fail in them, the string table is a map from SteamIDs to avatars beside a reserved
index 0: `table_is_map`. What one call does is `TableCall.Does`; its data lemmas are those
of `Avatar/Table.lean`, and what it does to the keys is one lemma for each call here.
-/

namespace BotHider.Model

open StringTable

/-! ## Calls -/

/-- A call of the avatar module on the table, and the engine calls that go through in it. -/
inductive TableCall
  | set (steamId : UInt64) (bytes : Bytes) (calls : TableCalls)
  | clear (steamId : UInt64) (calls : TableCalls)

/-- The SteamID a call is about. -/
def TableCall.steamId : TableCall → UInt64
  | .set steamId _ _ => steamId
  | .clear steamId _ => steamId

/-- Whether the call reports success, and the table after it. -/
def TableCall.run (table : StringTable) : TableCall → Bool × StringTable
  | .set steamId bytes calls => setAvatarOverride table steamId bytes calls
  | .clear steamId calls => clearAvatarOverride table steamId calls

def TableCall.step (table : StringTable) (call : TableCall) : StringTable := (call.run table).2

/-! ## Keys -/

namespace StringTable

/-- The keys of a table, in index order. -/
def keys (table : StringTable) : List String := table.map Prod.fst

/-- Index 0 is absent or carries no data. -/
def ZeroBlank (table : StringTable) : Prop := (table[0]?.map (·.2)).getD [] = []

/-- What a call can do to the keys: nothing, or append ones that were not there. An empty
table gets the sentinel first. -/
structure Grows (table table' : StringTable) : Prop where
  zeroBlank : table.ZeroBlank → table'.ZeroBlank
  append : table.keys <+: table'.keys
  nodup : table.keys.Nodup → table'.keys.Nodup
  reserved : ∀ sid, table'.findStringIndex (formatAvatarSteamId sid) = some 0 →
    table.findStringIndex (formatAvatarSteamId sid) = some 0

variable {table table' table'' : StringTable} {key : String} {index : Nat}

theorem Grows.refl : table.Grows table :=
  ⟨id, List.prefix_rfl, id, fun _ => id⟩

theorem Grows.trans (h : table.Grows table') (h' : table'.Grows table'') :
    table.Grows table'' :=
  ⟨h'.zeroBlank ∘ h.zeroBlank, h.append.trans h'.append, h'.nodup ∘ h.nodup,
    fun sid => h.reserved sid ∘ h'.reserved sid⟩

theorem findStringIndex_eq (table : StringTable) (key : String) :
    table.findStringIndex key = table.keys.findIdx? (· == key) := by
  unfold keys findStringIndex
  rw [List.findIdx?_map]
  rfl

theorem found_zero_iff : table.findStringIndex key = some 0 ↔ table.keys.head? = some key := by
  rw [findStringIndex_eq]
  cases table.keys with
  | nil => exact iff_of_false nofun nofun
  | cons first rest =>
    rw [List.findIdx?_cons, List.head?_cons, Option.some_inj]
    by_cases h : first = key
    · rw [if_pos (beq_iff_eq.mpr h)]
      exact iff_of_true rfl h
    · rw [if_neg (by simpa using h)]
      exact iff_of_false (by simp) h

theorem found_none_iff : table.findStringIndex key = none ↔ key ∉ table.keys := by
  rw [findStringIndex_eq, List.findIdx?_eq_none_iff]
  constructor
  · intro h hmem
    exact absurd (h key hmem) (by simp)
  · intro h other hother
    exact beq_eq_false_iff_ne.mpr fun heq => h (heq ▸ hother)

/-- What the index a key is found at holds. -/
theorem getElem_of_found (h : table.findStringIndex key = some index) :
    ∃ data, table[index]? = some (key, data) := by
  obtain ⟨hlt, hkey, -⟩ := List.findIdx?_eq_some_iff_getElem.mp h
  exact ⟨table[index].2, by rw [List.getElem?_eq_getElem hlt, ← beq_iff_eq.mp hkey]⟩

/-! ## What the engine calls do to the keys -/

theorem keys_modify (table : StringTable) (index : Nat) (data : Bytes) :
    StringTable.keys (table.modify index fun entry => (entry.1, data)) = table.keys := by
  refine List.ext_getElem? fun i => ?_
  unfold keys
  rw [List.getElem?_map, List.getElem?_map, List.getElem?_modify]
  split <;> cases table[i]? <;> rfl

/-- Setting data off index 0 keeps the keys. -/
theorem grows_modify (hindex : index ≠ 0) (data : Bytes) :
    table.Grows (table.modify index fun entry => (entry.1, data)) := by
  have hkeys := keys_modify table index data
  refine ⟨fun h => ?_, hkeys ▸ List.prefix_rfl, fun h => hkeys ▸ h, fun sid h => ?_⟩
  · unfold ZeroBlank at h ⊢
    rwa [List.getElem?_modify_ne _ _ hindex]
  · rwa [found_zero_iff, hkeys, ← found_zero_iff] at h

/-- Appending a key to a table that has others. -/
theorem grows_append (hnone : table.findStringIndex key = none) (hpos : 0 < table.length)
    (data : Bytes) : table.Grows (table ++ [(key, data)]) := by
  have hkeys : StringTable.keys (table ++ [(key, data)]) = table.keys ++ [key] :=
    List.map_append
  refine ⟨fun h => ?_, hkeys ▸ List.prefix_append _ _, fun h => ?_, fun sid h => ?_⟩
  · unfold ZeroBlank at h ⊢
    rwa [List.getElem?_append_left hpos]
  · rw [hkeys, List.nodup_append]
    refine ⟨h, List.nodup_singleton key, fun a ha b hb hab => ?_⟩
    rw [List.mem_singleton.mp hb] at hab
    exact found_none_iff.mp hnone (hab ▸ ha)
  · rw [found_zero_iff, hkeys, List.head?_append_of_ne_nil] at h
    · exact found_zero_iff.mpr h
    · exact fun hnil => absurd (List.map_eq_nil_iff.mp hnil) (List.ne_nil_of_length_pos hpos)

theorem grows_reserveSentinel (table : StringTable) (calls : TableCalls) :
    table.Grows (reserveSentinel table calls).2 := by
  unfold reserveSentinel
  split
  · rename_i hempty
    obtain rfl := List.length_eq_zero_iff.mp hempty
    unfold addString
    dsimp only
    split
    · refine ⟨fun _ => rfl, List.nil_prefix, fun _ => List.nodup_singleton _, fun sid h => ?_⟩
      -- index 0 is the sentinel's, which is no SteamID's key
      rw [found_zero_iff] at h
      exact absurd (Option.some.inj h).symm (formatAvatarSteamId_ne_sentinel sid)
    · exact .refl
  · exact .refl

end StringTable

variable {table : StringTable}

theorem grows_clearAvatarOverride (table : StringTable) (sid : UInt64) (calls : TableCalls) :
    table.Grows (clearAvatarOverride table sid calls).2 := by
  unfold clearAvatarOverride
  split
  · exact .refl
  · exact .refl
  · rename_i index hindex _
    unfold setStringUserData
    split
    · exact grows_modify hindex []
    · exact .refl

theorem grows_setAvatarOverride (table : StringTable) (sid : UInt64) (bytes : Bytes)
    (calls : TableCalls) : table.Grows (setAvatarOverride table sid bytes calls).2 := by
  have hreserve := grows_reserveSentinel table calls
  unfold setAvatarOverride
  dsimp only
  split
  · exact hreserve
  · rename_i hreserved
    split
    · exact hreserve
    · split
      · exact hreserve
      · -- the key is there and its data is replaced
        rename_i index hindex _
        unfold setStringUserData
        split
        · exact hreserve.trans (grows_modify hindex bytes)
        · exact hreserve
      · -- the key is new, and the sentinel keeps it from index 0
        rename_i hnone
        unfold addString
        cases calls.add with
        | false => exact hreserve
        | true =>
          have hpos := length_reserveSentinel (by simpa using hreserved)
          exact hreserve.trans (grows_append hnone hpos bytes)

/-- A write that succeeds leaves the bytes at the index its SteamID's key is found at. -/
theorem found_setAvatarOverride {sid : UInt64} {bytes : Bytes} {calls : TableCalls}
    (h : (setAvatarOverride table sid bytes calls).1 = true) :
    ∃ index > 0,
      (setAvatarOverride table sid bytes calls).2.findStringIndex (formatAvatarSteamId sid) =
        some index ∧
      (setAvatarOverride table sid bytes calls).2[index]? = some (formatAvatarSteamId sid, bytes) := by
  unfold setAvatarOverride at h ⊢
  dsimp only at h ⊢
  split at h
  · cases h
  · rename_i hreserved
    rw [if_neg hreserved]
    split at h
    · cases h
    · rename_i hblank
      rw [if_neg hblank]
      generalize (reserveSentinel table calls).2 = t at h ⊢
      split at h
      · cases h
      · -- the key is there, at an index other than 0
        rename_i index hindex hfound
        obtain ⟨data, hget⟩ := getElem_of_found hfound
        unfold setStringUserData at h ⊢
        split at h
        · rename_i hset
          rw [if_pos hset]
          refine ⟨index, Nat.pos_of_ne_zero hindex, ?_, ?_⟩
          · rw [findStringIndex_eq, keys_modify, ← findStringIndex_eq]
            exact hfound
          · dsimp only
            rw [List.getElem?_modify_eq, hget]
            rfl
        · cases h
      · -- the key is new and goes to the end of the table
        rename_i hnone
        unfold addString at h ⊢
        cases hadd : calls.add with
        | false =>
          rw [hadd] at h
          cases h
        | true =>
          simp only [hadd, if_true] at h ⊢
          refine ⟨t.length, of_decide_eq_true h, ?_, List.getElem?_concat_length⟩
          have hkeys : t.keys.findIdx? (· == formatAvatarSteamId sid) = none := by
            rw [← findStringIndex_eq]
            exact hnone
          rw [findStringIndex_eq, keys, List.map_append, List.findIdx?_append]
          change (t.keys.findIdx? _).or _ = _
          rw [hkeys]
          simp

/-- What a call does, and what it reports. -/
structure TableCall.Does (table : StringTable) (call : TableCall) : Prop where
  frame : ∀ key, key ≠ formatAvatarSteamId call.steamId →
    (call.run table).2.data key = table.data key
  failed : (call.run table).1 = false → ∀ key, (call.run table).2.data key = table.data key
  sets : ∀ sid bytes calls, call = .set sid bytes calls → (call.run table).1 = true →
    ∃ index > 0, (call.run table).2.findStringIndex (formatAvatarSteamId sid) = some index ∧
      (call.run table).2[index]? = some (formatAvatarSteamId sid, bytes)
  clears : ∀ sid calls, call = .clear sid calls → (call.run table).1 = true →
    (call.run table).2.data (formatAvatarSteamId sid) = []

theorem TableCall.does (table : StringTable) (call : TableCall) : call.Does table := by
  cases call with
  | set sid bytes calls =>
    have hdata := data_set_key table sid bytes calls
    refine ⟨fun key hkey => ?_, fun hfail key => ?_, ?_, nofun⟩
    · exact (hdata key).trans (if_neg fun h => hkey h.2)
    · exact (hdata key).trans (if_neg fun h => Bool.false_ne_true (hfail.symm.trans h.1))
    · rintro _ _ _ ⟨⟩ hok
      exact found_setAvatarOverride hok
  | clear sid calls =>
    have hdata := data_clear_key table sid calls
    refine ⟨fun key hkey => ?_, fun hfail key => ?_, nofun, ?_⟩
    · exact (hdata key).trans (if_neg fun h => hkey h.2)
    · exact (hdata key).trans (if_neg fun h => Bool.false_ne_true (hfail.symm.trans h.1))
    · rintro _ _ ⟨⟩ hok
      exact (hdata _).trans (if_pos ⟨hok, rfl⟩)

theorem TableCall.grows_step (table : StringTable) (call : TableCall) :
    table.Grows (call.step table) := by
  cases call with
  | set sid bytes calls => exact grows_setAvatarOverride table sid bytes calls
  | clear sid calls => exact grows_clearAvatarOverride table sid calls

theorem grows_exec (table : StringTable) (es : List TableCall) :
    table.Grows (Runs.exec TableCall.step table es) :=
  Runs.exec_always (I := table.Grows) .refl fun t e h => h.trans (e.grows_step t)

/-- **Override table.** Take any table of distinct keys whose index 0 is absent or carries no
data, and any calls on it. Then index 0 carries no data and is no SteamID's key's unless it
was to begin with, keys are only appended and stay distinct, different SteamIDs have
different keys, and any further call changes the data of its own key at most: a write that
succeeds leaves the given bytes at an index above 0, a clear that succeeds leaves no data,
and a call that fails changes nothing. -/
theorem table_is_map (table : StringTable) (hkeys : table.keys.Nodup) (hzero : table.ZeroBlank)
    (es : List TableCall) :
    let t := Runs.exec TableCall.step table es
    t.ZeroBlank ∧
    (∀ sid, t.findStringIndex (formatAvatarSteamId sid) = some 0 →
      table.findStringIndex (formatAvatarSteamId sid) = some 0) ∧
    table.keys <+: t.keys ∧ t.keys.Nodup ∧ Function.Injective formatAvatarSteamId ∧
    ∀ call : TableCall, call.Does t := by
  intro t
  have h := grows_exec table es
  exact ⟨h.zeroBlank hzero, h.reserved, h.append, h.nodup hkeys, formatAvatarSteamId_injective,
    fun call => call.does t⟩

/-- An empty table, where the first write of an avatar fails and the second goes through. -/
theorem table_is_map_retried :
    let t := Runs.exec TableCall.step []
      [.set 7 [0x89] { add := false }, .set 7 [0x89] {}, .clear 8 {}]
    t.ZeroBlank ∧ t.data (formatAvatarSteamId 7) = [0x89] := by
  have h := table_is_map [] List.nodup_nil rfl
    [.set 7 [0x89] { add := false }, .set 7 [0x89] {}, .clear 8 {}]
  exact ⟨h.1, by decide +kernel⟩

end BotHider.Model
