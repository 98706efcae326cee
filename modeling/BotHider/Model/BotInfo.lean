import BotHider.Model.Json
import BotHider.Model.Ping

/-!
# BotHider — configured identities

`bot_info.cpp` and `clan_tag.cpp`: the pool of identities read from
`bot_info.json`, and which of them are handed out.

A pool entry is referred to by its index, where the source
keeps a pointer into the entry vector.

Main results:

* `load_valid` — every loaded entry passed the loader's checks; in particular its
  SteamID is the account base plus a nonzero account ID (`Valid.steamId64_ne_zero`).
* `pickForBot_some` / `pickForBot_none` — a pick is an unassigned, unoccupied entry
  and marks exactly that entry.
-/

namespace BotHider.Model

/-! ## Entries -/

/-- `ClanTag`. -/
structure ClanTag where
  tag : Bytes := []
  groupId : UInt32 := 0

/-- `BotEntry`. -/
@[ext]
structure BotEntry where
  name : Bytes := []
  accountId : UInt32 := 0
  steamId64 : UInt64 := 0
  crosshairCode : Bytes := []
  scoreboardFlair : UInt32 := 0
  clanTag : ClanTag := {}

/-- `BotInfoStore::kSteamId64Base`. -/
def kSteamId64Base : UInt64 := 76561197960265728

/-- `std::from_chars` into a `uint32_t`: the leading digits' value and what follows
them; no digits or a value out of range is an error. -/
def fromChars (text : List Char) : Option (UInt32 × List Char) :=
  let digits := text.takeWhile Char.isDigit
  let value := digits.foldl (fun n c => n * 10 + (c.toNat - '0'.toNat)) 0
  if digits = [] ∨ value ≥ 2 ^ 32 then none
  else some (UInt32.ofNat value, text.dropWhile Char.isDigit)

/-- `ParseAccountId`. -/
def parseAccountId (text : String) : Option UInt32 :=
  match text.toList with
  | [] => none
  | front :: rest =>
    if front = '0' then none
    else
      match fromChars (front :: rest) with
      | some (accountId, []) => if accountId ≠ 0 then some accountId else none
      | _ => none

/-- `ParseClanTag`: the pair is taken together or not at all. -/
def parseClanTag (value : Json) : ClanTag :=
  match value.get? "clan_tag", (value.get? "clan_group_id").bind Json.asUnsigned? with
  | some (.str tag), some groupId =>
    if tag = [] ∨ tag.length ≥ 128 ∨ (0 : UInt8) ∈ tag ∨ groupId = 0 ∨ groupId > 0xFFFFFFFF then {}
    else { tag, groupId := groupId.toUInt32 }
  | _, _ => {}

/-- A name the loader turns down: too long for the bridge, with a control byte, or
nothing but spaces. -/
def rejectsName (name : Bytes) : Bool :=
  name.length ≥ kNameLen || name.any (fun ch => ch < 0x20 || ch == 0x7F) ||
    name.all (· == 0x20)

/-- The crosshair code of an entry, before its checks; a value that is not a string
leaves the default. -/
def crosshairField (val : Json) : Bytes :=
  match val.get? "crosshair_code" with
  | some (.str code) => code
  | _ => []

/-- The flair of an entry; anything but an integer in `0..65535` leaves `0`. -/
def flairField (val : Json) : UInt32 :=
  match (val.get? "scoreboard_flair").bind Json.asSigned? with
  | some flair => if 0 ≤ flair ∧ flair ≤ 65535 then flair.toUInt64.toUInt32 else 0
  | none => 0

/-- One round of the loop of `BotInfoStore::Load`; `none` is a rejected member. -/
def loadEntry (key : String) (val : Json) : Option BotEntry :=
  match val with
  | .obj _ =>
    match parseAccountId key, val.get? "player_name" with
    | some accountId, some (.str name) =>
      if rejectsName name then none
      else
        let code := crosshairField val
        if code.length ≥ kCrosshairLen ∨ (0 : UInt8) ∈ code then none
        else
          some
            { name, accountId
              steamId64 := kSteamId64Base + accountId.toUInt64
              crosshairCode := if code = [0x30] then [] else code
              scoreboardFlair := flairField val
              clanTag := parseClanTag val }
    | _, _ => none
  | _ => none

/-! ## The store -/

/-- `BotInfoStore`. -/
structure BotInfoStore where
  entries : List BotEntry := []
  assigned : List Bool := []
  rngState : UInt64 := 0

/-- The members of `players`, when the document has them. -/
def playersOf (document : Option Json) : List (String × Json) :=
  match document.bind (·.get? "players") with
  | some (.obj members) => members
  | _ => []

/-- `BotInfoStore::Load`. The document is `none` when the file cannot be opened or
parsed; `now` is the clock the generator is seeded from. -/
def BotInfoStore.load (document : Option Json) (now : UInt64) : BotInfoStore × Bool :=
  let entries := (playersOf document).filterMap fun (key, val) => loadEntry key val
  ({ entries, assigned := List.replicate entries.length false, rngState := now ||| 1 },
    !entries.isEmpty)

/-- One round of the candidate loop of `PickForBot`. -/
def BotInfoStore.collect (store : BotInfoStore) (engineName : Option Bytes)
    (occupied : List UInt64) (lists : List Nat × List Nat) (i : Nat) : List Nat × List Nat :=
  match store.entries[i]? with
  | none => lists
  | some entry =>
    if store.assigned[i]?.getD false || occupied.contains entry.steamId64 then lists
    else
      (lists.1 ++ [i],
        if engineName.map cstr = some entry.name then lists.2 ++ [i] else lists.2)

/-- The `available` and `matches` lists of `PickForBot`. -/
def BotInfoStore.candidateLists (store : BotInfoStore) (engineName : Option Bytes)
    (occupied : List UInt64) : List Nat × List Nat :=
  (List.range store.entries.length).foldl (store.collect engineName occupied) ([], [])

/-- The `candidates` of `PickForBot`: the entries of the engine's name, if any. -/
def BotInfoStore.candidates (store : BotInfoStore) (engineName : Option Bytes)
    (occupied : List UInt64) : List Nat :=
  let lists := store.candidateLists engineName occupied
  if lists.2.isEmpty then lists.1 else lists.2

/-- `BotInfoStore::PickForBot`: the picked entry's index, or `none`. -/
def BotInfoStore.pickForBot (store : BotInfoStore) (engineName : Option Bytes)
    (occupied : List UInt64) : Option Nat × BotInfoStore :=
  let candidates := store.candidates engineName occupied
  if candidates.isEmpty then (none, store)
  else
    let rand := nextRand store.rngState
    match candidates[rand.1.toNat % candidates.length]? with
    | none => (none, store)
    | some pick =>
      (some pick, { store with assigned := store.assigned.set pick true, rngState := rand.2 })

/-- `BotInfoStore::ReleaseAssignment`. -/
def BotInfoStore.releaseAssignment (store : BotInfoStore) (entry : Option Nat) : BotInfoStore :=
  match entry with
  | none => store
  | some i => { store with assigned := store.assigned.set i false }

/-- `BotInfoStore::ResetAssignments`. -/
def BotInfoStore.resetAssignments (store : BotInfoStore) : BotInfoStore :=
  { store with assigned := store.assigned.map fun _ => false }

/-! ## What the loader admits -/

/-- The checks an entry of a loaded pool passed. -/
structure BotEntry.Valid (e : BotEntry) : Prop where
  steamId64 : e.steamId64 = kSteamId64Base + e.accountId.toUInt64
  accountId : e.accountId ≠ 0
  name : rejectsName e.name = false

theorem parseAccountId_ne_zero {text : String} {accountId : UInt32}
    (h : parseAccountId text = some accountId) : accountId ≠ 0 := by
  unfold parseAccountId at h
  split at h
  · cases h
  · split at h
    · cases h
    · split at h
      · split at h
        · rename_i hne
          rw [← Option.some.inj h]
          exact hne
        · cases h
      · cases h

theorem loadEntry_valid {key : String} {val : Json} {e : BotEntry}
    (h : loadEntry key val = some e) : e.Valid := by
  unfold loadEntry at h
  split at h
  · split at h
    · rename_i accountId name hacc hname
      split at h
      · cases h
      · rename_i hrej
        dsimp only at h
        split at h
        · cases h
        · rw [← Option.some.inj h]
          exact ⟨rfl, parseAccountId_ne_zero hacc, by simpa using hrej⟩
    · cases h
  · cases h

/-- **Loader.** Every entry of a loaded pool passed the loader's checks. -/
theorem load_valid {document : Option Json} {now : UInt64} {e : BotEntry}
    (he : e ∈ (BotInfoStore.load document now).1.entries) : e.Valid := by
  obtain ⟨⟨key, val⟩, -, hload⟩ := List.mem_filterMap.mp he
  exact loadEntry_valid hload

/-- A SteamID of a loaded entry is never zero: base plus account ID does not wrap. -/
theorem BotEntry.Valid.steamId64_ne_zero {e : BotEntry} (h : e.Valid) : e.steamId64 ≠ 0 := by
  rw [h.steamId64]
  intro hz
  have hlt := e.accountId.toNat_lt
  have := congrArg UInt64.toNat hz
  rw [UInt64.toNat_add, UInt32.toNat_toUInt64] at this
  simp only [kSteamId64Base, UInt64.reduceToNat] at this
  omega

/-! ## What a pick is -/

variable {store : BotInfoStore} {engineName : Option Bytes} {occupied : List UInt64}

/-- An entry that may be handed out: unassigned and with a SteamID nobody has. -/
def BotInfoStore.Available (store : BotInfoStore) (occupied : List UInt64) (i : Nat) : Prop :=
  store.assigned[i]?.getD false = false ∧
    ∃ e, store.entries[i]? = some e ∧ e.steamId64 ∉ occupied

/-- The entry carries the engine's name. -/
def BotInfoStore.Named (store : BotInfoStore) (engineName : Option Bytes) (i : Nat) : Prop :=
  ∃ e, store.entries[i]? = some e ∧ engineName.map cstr = some e.name

/-- One round of the loop looks at one entry. -/
theorem mem_collect {lists : List Nat × List Nat} {i j : Nat} :
    (j ∈ (store.collect engineName occupied lists i).1 ↔
      j ∈ lists.1 ∨ j = i ∧ store.Available occupied j) ∧
    (j ∈ (store.collect engineName occupied lists i).2 ↔
      j ∈ lists.2 ∨ j = i ∧ store.Available occupied j ∧ store.Named engineName j) := by
  unfold BotInfoStore.collect
  split
  · rename_i hentry
    have hnot : ¬ store.Available occupied i := by
      rintro ⟨-, e, he, -⟩
      rw [hentry] at he
      cases he
    constructor <;> constructor <;> intro h <;> grind
  · rename_i entry hentry
    have hnamed : store.Named engineName i ↔ engineName.map cstr = some entry.name := by
      unfold BotInfoStore.Named
      rw [hentry]
      simp
    have havail : store.Available occupied i ↔
        ¬ ((store.assigned[i]?.getD false || occupied.contains entry.steamId64) = true) := by
      unfold BotInfoStore.Available
      rw [hentry]
      simp
    split
    · constructor <;> constructor <;> intro h <;> grind
    · dsimp only
      split <;> constructor <;> constructor <;> intro h <;> grind

theorem mem_foldl_collect {l : List Nat} {lists : List Nat × List Nat} {j : Nat} :
    (j ∈ (l.foldl (store.collect engineName occupied) lists).1 ↔
      j ∈ lists.1 ∨ j ∈ l ∧ store.Available occupied j) ∧
    (j ∈ (l.foldl (store.collect engineName occupied) lists).2 ↔
      j ∈ lists.2 ∨ j ∈ l ∧ store.Available occupied j ∧ store.Named engineName j) := by
  induction l generalizing lists with
  | nil => simp
  | cons i l ih =>
    rw [List.foldl_cons, ih.1, ih.2, mem_collect.1, mem_collect.2]
    simp only [List.mem_cons]
    constructor <;> constructor <;> intro h <;> grind

theorem BotInfoStore.Available.lt {i : Nat} (h : store.Available occupied i) :
    i < store.entries.length := by
  obtain ⟨-, e, he, -⟩ := h
  exact (List.getElem?_eq_some_iff.mp he).1

/-- The two lists of `PickForBot`. -/
theorem mem_candidateLists {j : Nat} :
    (j ∈ (store.candidateLists engineName occupied).1 ↔ store.Available occupied j) ∧
    (j ∈ (store.candidateLists engineName occupied).2 ↔
      store.Available occupied j ∧ store.Named engineName j) := by
  unfold BotInfoStore.candidateLists
  rw [mem_foldl_collect.1, mem_foldl_collect.2]
  simp only [List.not_mem_nil, false_or, List.mem_range]
  exact ⟨and_iff_right_of_imp fun h => h.lt, and_iff_right_of_imp fun h => h.1.lt⟩

/-- **Candidates.** The available entries with the engine's name, or all available ones when
there is none. -/
theorem mem_candidates {j : Nat} : j ∈ store.candidates engineName occupied ↔
    store.Available occupied j ∧
      ((∃ i, store.Available occupied i ∧ store.Named engineName i) →
        store.Named engineName j) := by
  unfold BotInfoStore.candidates
  dsimp only
  split
  · rename_i hempty
    have hnone : ¬ ∃ i, store.Available occupied i ∧ store.Named engineName i := by
      rintro ⟨i, hi⟩
      have hmem := mem_candidateLists.2.mpr hi
      rw [List.isEmpty_iff.mp hempty] at hmem
      cases hmem
    rw [mem_candidateLists.1]
    exact (and_iff_left fun h => absurd h hnone).symm
  · rename_i hne
    obtain ⟨i, hi⟩ := List.exists_mem_of_ne_nil _ fun h => hne (List.isEmpty_iff.mpr h)
    rw [mem_candidateLists.2]
    exact and_congr_right fun _ => ⟨fun h _ => h, fun h => h ⟨i, mem_candidateLists.2.mp hi⟩⟩

/-- What `PickForBot` can do: pick a candidate and mark it, or, when there is none, leave the
store alone. -/
theorem pickForBot_cases (store : BotInfoStore) (engineName : Option Bytes)
    (occupied : List UInt64) :
    (∃ i ∈ store.candidates engineName occupied,
      store.pickForBot engineName occupied =
        (some i, { store with
          assigned := store.assigned.set i true
          rngState := (nextRand store.rngState).2 })) ∨
      store.candidates engineName occupied = [] ∧
        store.pickForBot engineName occupied = (none, store) := by
  unfold BotInfoStore.pickForBot
  dsimp only
  split
  · rename_i hempty
    exact Or.inr ⟨List.isEmpty_iff.mp hempty, rfl⟩
  · rename_i hne
    have hpos : 0 < (store.candidates engineName occupied).length :=
      List.length_pos_iff.mpr fun h => hne (List.isEmpty_iff.mpr h)
    -- the draw is reduced to an index of the list
    split
    · rename_i hnone
      exact absurd (List.getElem?_eq_none_iff.mp hnone) (Nat.not_le.mpr (Nat.mod_lt _ hpos))
    · rename_i pick hpick
      exact Or.inl ⟨pick, List.mem_of_getElem? hpick, rfl⟩

/-- **Pick.** A picked entry was available, and the pick marks that entry and
changes nothing else but the generator. -/
theorem pickForBot_some {i : Nat} (h : (store.pickForBot engineName occupied).1 = some i) :
    store.Available occupied i ∧
      (store.pickForBot engineName occupied).2.entries = store.entries ∧
      (store.pickForBot engineName occupied).2.assigned = store.assigned.set i true := by
  rcases pickForBot_cases store engineName occupied with ⟨j, hj, heq⟩ | ⟨-, heq⟩
  · rw [heq] at h ⊢
    obtain rfl := Option.some.inj h
    exact ⟨(mem_candidates.mp hj).1, rfl, rfl⟩
  · rw [heq] at h
    cases h

/-- A failed pick changes nothing. -/
theorem pickForBot_none (h : (store.pickForBot engineName occupied).1 = none) :
    (store.pickForBot engineName occupied).2 = store := by
  rcases pickForBot_cases store engineName occupied with ⟨j, hj, heq⟩ | ⟨-, heq⟩
  · rw [heq] at h
    cases h
  · rw [heq]

end BotHider.Model
