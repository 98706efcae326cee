import BotHider.Model.Hooks

/-!
# BotHider — bots connecting, entering and leaving

`client_hooks.cpp` and the slot releases and controller removals of
`identity_runtime.cpp`. What the engine answers to `SetName` is an argument
(`SetNameCall`).
-/

namespace BotHider.Model

/-- ASCII text as the C string literal it stands for. -/
def ascii (s : String) : Bytes := s.toList.map fun c => UInt8.ofNat c.toNat

/-- The engine's `SetName`: whether it was found, and the name a client carries after
being given one. -/
structure SetNameCall where
  available : Bool := true
  applied : Bytes → Option Bytes := some

/-- `SetEngineName`, on the client a slot resolves to. -/
def Engine.setEngineName (e : Engine) (call : SetNameCall) (slot : Nat) (name : Bytes) :
    Engine × Option Bytes :=
  if cstr name = [] ∨ call.available = false then (e, none)
  else
    let applied := call.applied (cstr name)
    (e.modifyClient slot fun c => { c with name := applied }, applied)

/-- `IsHltvConnection`. -/
def isHltvConnection (name networkId : Option Bytes) : Bool :=
  name.map cstr == some (ascii "SourceTV") || networkId.map cstr == some (ascii "HLTV")

/-- `CEntityHandle::GetEntryIndex`: the low 15 bits. -/
def entryIndex (handle : UInt32) : Int := (handle.toNat % 0x8000 : Nat)

namespace World

variable (w : World)

/-! ## Adoption -/

/-- `ClearFakePlayer` and `SetControllerFakeClientFlag(slot, fakeClient)`. -/
def disguiseClient (slot : Slot) (fakeClient : Bool) : World :=
  w.withEngine
    ((w.engine.modifyClient slot Client.clearFakePlayer).setControllerFakeClientFlag slot
      fakeClient)

/-- `WriteSteamId` on a slot's client. -/
def writeSteamId (slot : Slot) (steamId : UInt64) : World :=
  w.withEngine (w.engine.modifyClient slot (Client.writeSteamId steamId))

/-- The name a bot is adopted under. -/
def displayName (entry : BotEntry) (name : Option Bytes) : Bytes :=
  if w.plugin.useBotInfoName || (cstr (name.getD [])).isEmpty then entry.name
  else cstr (name.getD [])

/-- What `AdoptClient` does once the pool gave it an entry. -/
def adoptEntry (slot : Slot) (name : Option Bytes) (now : UInt64) (pick : Nat)
    (entry : BotEntry) : World :=
  let adopted := w.adoptSlot slot
    { name := some (w.displayName entry name)
      steamId64 := entry.steamId64
      crosshairCode := entry.crosshairCode
      scoreboardFlair := entry.scoreboardFlair
      clanTag := entry.clanTag.tag
      clanGroupId := entry.clanTag.groupId } now
  let bound := (adopted.bindSlot slot pick name).writeSteamId slot entry.steamId64
  if bound.isDisguiseEnabled then bound.disguiseClient slot bound.populationTransactionActive
  else bound

/-- `AdoptClient`; the slot resolves to a client. -/
def adoptClient (slot : Slot) (name : Option Bytes) (now : UInt64) : World × Bool :=
  match collectOccupiedSteamIds w.manager w.engine slot with
  | none => (w, false)
  | some occupied =>
    let picked := w.botInfo.pickForBot name occupied
    let w := { w with botInfo := picked.2 }
    match picked.1 with
    | none => (w, false)
    | some pick => (w.adoptEntry slot name now pick ((w.botInfo.entries[pick]?).getD {}), true)

/-- `HookOnClientConnectedPost`. -/
def hookOnClientConnectedPost (slot : Int) (name networkId : Option Bytes) (fakePlayer : Bool)
    (now : UInt64) : World :=
  if !fakePlayer || isHltvConnection name networkId then w
  else
    match slotOf slot with
    | none => w
    | some index =>
      if w.manager.isManaged index then w
      else
        match w.engine.resolveClientBySlot index with
        | none => w
        | some client => if client.hltv then w else (w.adoptClient index name now).1

/-- `ApplyClientName`. -/
def applyClientName (call : SetNameCall) (slot : Slot) (name : Bytes) : World × Bool :=
  let set := w.engine.setEngineName call slot name
  let w := w.withEngine set.1
  let applied := cstr (set.2.getD []) ≠ []
  let appliedName := if applied then set.2
    else (w.engine.resolveClientBySlot slot).bind Client.name
  (w.withManager (w.manager.setSlotName slot appliedName), applied)

/-- One slot's round of `AdoptExistingBots`. -/
def adoptExistingBot (call : SetNameCall) (now : UInt64) (slot : Slot) : World :=
  match w.engine.resolveClientBySlot slot with
  | none => w
  | some client =>
    if !client.isFakePlayerSet || client.hltv then w
    else if isHltvConnection client.name none then w
    else
      let adopted := w.adoptClient slot client.name now
      if adopted.2 then
        (adopted.1.applyClientName call slot (adopted.1.manager.getSlotName slot)).1
      else adopted.1

/-! ## Release -/

/-- The undo of `HookClientDisconnectPre` and of the conflict branch of
`HookClientPutInServerPost`. -/
def restoreSlotClient (slot : Slot) : World := w.withEngine (restoreClient w.engine slot)

/-- `ReleaseManagedHltvSlot`. -/
def releaseManagedHltvSlot (call : SetNameCall) (slot : Slot) : World × Bool :=
  match w.engine.resolveClientBySlot slot with
  | none => (w, false)
  | some client =>
    if !w.manager.isManaged slot || !client.hltv then (w, false)
    else
      let cleared := w.writeSteamId slot 0
      let originalName := w.identity.originalSlotNames slot
      let renamed := if originalName = [] then cleared
        else cleared.withEngine (cleared.engine.setEngineName call slot originalName).1
      (renamed.releaseSlot slot, true)

/-! ## Server entry -/

/-- The end of `HookClientPutInServerPost`: the identity goes back on. -/
def reapplyIdentity (call : SetNameCall) (slot : Slot) (name : Option Bytes) : World :=
  let disguised :=
    if w.isDisguiseEnabled then w.disguiseClient slot w.populationTransactionActive else w
  let written := disguised.writeSteamId slot (w.manager.getSyntheticSid slot)
  let slotName := w.manager.getSlotName slot
  let visibleName := if slotName = [] then cstr (name.getD []) else slotName
  if visibleName = [] then written else (written.applyClientName call slot visibleName).1

/-- `HookClientPutInServerPost`. -/
def hookClientPutInServerPost (call : SetNameCall) (slot : Int) (name : Option Bytes) : World :=
  match slotOf slot with
  | none => w
  | some index =>
    if !w.manager.isManaged index then w
    else
      match w.engine.resolveClientBySlot index with
      | none => w
      | some _ =>
        let hltv := w.releaseManagedHltvSlot call index
        if hltv.2 then hltv.1
        else if checkSteamIdAvailability w.manager w.engine index
            (w.manager.getSyntheticSid index) ≠ .available then
          (w.restoreSlotClient index).releaseSlot index
        else w.reapplyIdentity call index name

/-! ## Controller removal -/

/-- `QueueControllerRemovalForClient`. -/
def queueControllerRemovalForClient (client : Client) (slot : Slot) : World :=
  if !w.engine.utilRemove then w
  else
    match w.engine.resolveController client with
    | none => w
    | some controller =>
      if controller.beingDeleted then w
      else if w.identity.pendingControllerRemovals.any (·.handle == controller.handle) then w
      else
        { w with
          identity :=
            { w.identity with
              pendingControllerRemovals := w.identity.pendingControllerRemovals ++
                [{ controller := controller.addr
                   handle := controller.handle
                   slot
                   userId := client.userId }] } }

/-- `HookClientDisconnectPre`; `targeted` is `IsTargetedClientRemovalReason` of the
reason. -/
def hookClientDisconnectPre (slot : Int) (targeted : Bool) : World :=
  match slotOf slot with
  | none => w
  | some index =>
    if !w.manager.isManaged index then w
    else
      let w := match w.engine.resolveClientBySlot index with
        | none => w
        | some client =>
          let restored := w.restoreSlotClient index
          if targeted then restored.queueControllerRemovalForClient client index else restored
      w.releaseSlot index

/-- The user ID of the first slot whose client controls the entity, if any:
`IsControllerReferencedByClient`. -/
def controllerReference (controller : Nat) : Option UInt16 :=
  (allSlots.find? fun slot =>
      (w.engine.controllerAt slot).any fun k => k.addr == controller).bind fun slot =>
    (w.engine.resolveClientBySlot slot).map Client.userId

/-- One round of the loop of `DrainPendingControllerRemovals`: the queue built so far
and the world. -/
def drainControllerRemoval (s : World × List PendingControllerRemoval)
    (item : PendingControllerRemoval) : World × List PendingControllerRemoval :=
  let index := entryIndex item.handle
  match s.1.engine.resolveEntityInstance index with
  | none => s
  | some current =>
    if current.addr ≠ item.controller ∨ ¬ current.LiveController ∨ current.handle ≠ item.handle then
      s
    else
      let removed := s.1.withEngine
        (s.1.engine.modifyEntity index fun k => { k with beingDeleted := true })
      match s.1.controllerReference current.addr with
      | none => (removed, s.2)
      | some userId =>
        if userId ≠ item.userId then s
        else if item.referencedFrames = 0 then
          (s.1, s.2 ++ [{ item with referencedFrames := item.referencedFrames + 1 }])
        else (removed, s.2)

/-- `DrainPendingControllerRemovals`. -/
def drainPendingControllerRemovals : World :=
  if !w.engine.utilRemove then
    { w with identity := { w.identity with pendingControllerRemovals := [] } }
  else
    let drained := w.identity.pendingControllerRemovals.foldl drainControllerRemoval (w, [])
    { drained.1 with
      identity := { drained.1.identity with pendingControllerRemovals := drained.2 } }

end World

end BotHider.Model
