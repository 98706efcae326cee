import BotHider.Model.Manager

/-!
# BotHider — avatar overrides

`avatar_override.cpp`: the `ServerAvatarOverrides` string table and the pass that
brings it in line with the slots' avatar requests.

A string table is an append-only list of keys with data, addressed by its
pointer; index `0` is what the game shows for every player without an entry of
his own. Whether an engine call goes through is an argument (`TableCalls`): in
one pass each call is made at most once for each slot.
-/

namespace BotHider.Model

/-! ## The string table -/

/-- A network string table: keys and their data, in index order. -/
abbrev StringTable := List (String × Bytes)

/-- Which engine calls of one slot's round succeed. -/
structure TableCalls where
  clear : Bool := true
  reliable : Bool := true
  sentinel : Bool := true
  add : Bool := true
  set : Bool := true

/-- `FindStringIndex`. -/
def StringTable.findStringIndex (table : StringTable) (key : String) : Option Nat :=
  table.findIdx? (·.1 == key)

/-- `AddString`: append, or fail without change. -/
def StringTable.addString (table : StringTable) (key : String) (data : Bytes) (ok : Bool) :
    Option Nat × StringTable :=
  if ok then (some table.length, table ++ [(key, data)]) else (none, table)

/-- `SetStringUserData`: replace the data, or fail without change. -/
def StringTable.setStringUserData (table : StringTable) (index : Nat) (data : Bytes)
    (ok : Bool) : Bool × StringTable :=
  if ok then (true, table.modify index fun entry => (entry.1, data)) else (false, table)

/-- The data a key holds; a key that is absent holds none. -/
def StringTable.data (table : StringTable) (key : String) : Bytes :=
  (table.lookup key).getD []

/-- `FormatAvatarSteamId`. -/
def formatAvatarSteamId (steamId : UInt64) : String := Nat.repr steamId.toNat

/-- The key that keeps index 0 free of avatars. -/
def kAvatarSentinel : String := "__bothider_no_avatar__"

/-- `ClearAvatarOverride`. -/
def clearAvatarOverride (table : StringTable) (steamId : UInt64) (calls : TableCalls) :
    Bool × StringTable :=
  match table.findStringIndex (formatAvatarSteamId steamId) with
  | none => (true, table)
  | some 0 => (false, table)
  | some index => table.setStringUserData index [] calls.clear

/-- The reservation of index 0 in an empty table. -/
def reserveSentinel (table : StringTable) (calls : TableCalls) : Bool × StringTable :=
  if table.length = 0 then
    let added := table.addString kAvatarSentinel [] calls.sentinel
    (added.1 = some 0, added.2)
  else (true, table)

/-- `SetAvatarOverride`. -/
def setAvatarOverride (table : StringTable) (steamId : UInt64) (bytes : Bytes)
    (calls : TableCalls) : Bool × StringTable :=
  let reserved := reserveSentinel table calls
  let table := reserved.2
  if !reserved.1 then (false, table)
  else if (table[0]?.map (·.2)).getD [] ≠ [] then (false, table)
  else
    let key := formatAvatarSteamId steamId
    match table.findStringIndex key with
    | some 0 => (false, table)
    | some index => table.setStringUserData index bytes calls.set
    | none =>
      let added := table.addString key bytes calls.add
      (match added.1 with
        | some index => 0 < index
        | none => false, added.2)

/-! ## The pass -/

/-- `AvatarRuntimeState`; `retryAt` counts clock ticks from the epoch. -/
structure AvatarRuntimeState where
  sequence : UInt32 := 0xFFFFFFFF
  steamId : UInt64 := 0
  appliedSteamId : UInt64 := 0
  processed : Bool := false
  failureLogged : Bool := false
  retryAt : Nat := 0

/-- The avatar module's globals and the tables behind their pointers. -/
structure AvatarOverrides where
  networkStringTables : Bool
  states : Slot → AvatarRuntimeState
  lastAvatarTable : Option Nat
  tables : Nat → StringTable

/-- `std::chrono::seconds(1)` in clock ticks. -/
def kRetryDelay : Nat := 1000000000

/-- A slot's record is started over when its request or its SteamID changed. -/
def AvatarRuntimeState.refresh (state : AvatarRuntimeState) (sequence : UInt32)
    (steamId : UInt64) : AvatarRuntimeState :=
  if state.sequence ≠ sequence ∨ state.steamId ≠ steamId then
    { state with
      sequence, steamId
      processed := false
      failureLogged := false
      retryAt := 0 }
  else state

/-- The `retry` of a failed round. -/
def AvatarRuntimeState.retry (state : AvatarRuntimeState) (now : Nat) : AvatarRuntimeState :=
  { state with
    retryAt := now + kRetryDelay
    failureLogged := true }

/-- The slot's avatar request belongs to its current incarnation. -/
def FakeClientManager.currentRequest (m : FakeClientManager) (slot : Slot) : Bool :=
  let request := m.getAvatarRequest slot
  m.isManaged slot && (request.length > 0 && (request.incarnation ≠ 0 &&
    request.incarnation = m.getIncarnation slot))

/-- The SteamID a slot's avatar is wanted under; `0` for none. -/
def FakeClientManager.avatarTarget (m : FakeClientManager) (slot : Slot) : UInt64 :=
  if m.currentRequest slot then m.getSyntheticSid slot else 0

namespace AvatarOverrides

variable (a : AvatarOverrides)

def setState (slot : Slot) (state : AvatarRuntimeState) : AvatarOverrides :=
  { a with states := Function.update a.states slot state }

def setTable (addr : Nat) (table : StringTable) : AvatarOverrides :=
  { a with tables := Function.update a.tables addr table }

/-- `for (auto& previous : g_avatarStates) ...`: cleanup ownership of a SteamID passes
to the slot that just wrote it. -/
def transfer (steamId : UInt64) : AvatarOverrides :=
  { a with
    states := fun slot =>
      if (a.states slot).appliedSteamId = steamId then
        { a.states slot with appliedSteamId := 0 }
      else a.states slot }

/-- The part of a round that takes back what the slot wrote under another SteamID:
whether it went through, and the state after it. -/
def clearStale (calls : TableCalls) (addr : Nat) (slot : Slot) : Bool × AvatarOverrides :=
  let state := a.states slot
  if state.appliedSteamId ≠ 0 ∧ state.appliedSteamId ≠ state.steamId then
    let cleared := clearAvatarOverride (a.tables addr) state.appliedSteamId calls
    let a := a.setTable addr cleared.2
    if cleared.1 then (true, a.setState slot { state with appliedSteamId := 0 })
    else (false, a)
  else (true, a)

/-- The rest of a round: write the request, or note that there is nothing to show. -/
def applyRequest (m : FakeClientManager) (calls : TableCalls) (now addr : Nat) (slot : Slot) :
    FakeClientManager × AvatarOverrides :=
  let state := a.states slot
  if state.steamId = 0 then (m, a.setState slot { state with processed := true })
  else if !calls.reliable then (m, a.setState slot (state.retry now))
  else
    let written := setAvatarOverride (a.tables addr) state.steamId
      (m.getAvatarRequest slot).data calls
    let a := a.setTable addr written.2
    if !written.1 then (m, a.setState slot (state.retry now))
    else
      (m.publishAvatarState slot true state.steamId,
        (a.transfer state.steamId).setState slot
          { state with
            appliedSteamId := state.steamId
            processed := true })

/-- One slot's round of `ProcessOverrides`. -/
def processSlot (calls : Slot → TableCalls) (now addr : Nat)
    (s : FakeClientManager × AvatarOverrides) (slot : Slot) :
    FakeClientManager × AvatarOverrides :=
  let m := s.1
  let state := (s.2.states slot).refresh (m.getAvatarRequest slot).sequence (m.avatarTarget slot)
  let a := s.2.setState slot state
  if state.processed || now < state.retryAt then (m, a)
  else
    let m := m.publishAvatarState slot false 0
    let cleared := a.clearStale (calls slot) addr slot
    if !cleared.1 then (m, cleared.2.setState slot (state.retry now))
    else cleared.2.applyRequest m (calls slot) now addr slot

/-- `PublishAvatarState(slot, false, 0)` for every slot. -/
def withdrawAll (m : FakeClientManager) : FakeClientManager :=
  allSlots.foldl (fun m slot => m.publishAvatarState slot false 0) m

/-- `ResetRuntime`. -/
def resetRuntime (m : FakeClientManager) : FakeClientManager × AvatarOverrides :=
  (withdrawAll m, { a with states := fun _ => {}, lastAvatarTable := none })

/-- The bookkeeping of a table that was not seen last time starts afresh. -/
def noteTable (m : FakeClientManager) (addr : Nat) : FakeClientManager × AvatarOverrides :=
  if a.lastAvatarTable = some addr then (m, a)
  else (withdrawAll m, { a with states := fun _ => {}, lastAvatarTable := some addr })

/-- `ProcessOverrides`; `found` is the table the container returns. -/
def processOverrides (m : FakeClientManager) (found : Option Nat) (calls : Slot → TableCalls)
    (now : Nat) : FakeClientManager × AvatarOverrides :=
  if !a.networkStringTables then (m, a)
  else
    match found with
    | none => (m, a)
    | some addr => allSlots.foldl (processSlot calls now addr) (a.noteTable m addr)

end AvatarOverrides

end BotHider.Model
