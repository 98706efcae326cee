import BotHider.Model.Exports

/-!
# BotHider — the managed client

`BridgeClient.cs` and the queued writes of `BotHiderImplPlugin.cs`. Text is kept as
its UTF-8 bytes. A background read is a `ReadTask` that finishes whenever the
event says so, and a queued write runs one frame later; `fault` counts the engine
call of a write that throws, from zero.

Left to arguments: which paths `TrySetBotAvatar` takes for a PNG of the avatar
directory, and what `BuildBoundedVisiblePersonaName` makes of a name.
-/

namespace BotHider.Model

namespace World

variable (w : World)

/-- A change of the managed client's own state. -/
def withBridge (b : BridgeClient) : World := { w with bridge := b }

/-! ## Connection -/

/-- `BotHiderImplPlugin.Load`: a new plugin object with a new client, kept when it
connects. `found` says whether the native library loads. -/
def loadImpl (found : Bool) : World :=
  let fresh : BridgeClient :=
    { clients := w.bridge.clients + 1, nextFrame := w.bridge.nextFrame }
  if !found then w.withBridge fresh
  else
    let attached := w.bhAttach
    attached.1.withBridge
      (if attached.2 then { fresh with client := some fresh.clients } else fresh)

/-- `ReadSlot`. -/
def readSlot (slot : Int) : Option SlotSnapshot :=
  if w.bridge.client.isNone then none else w.bhGetSlot slot

/-- `HasBotAvatar`. -/
def hasBotAvatar (slot : Int) : Bool :=
  match w.readSlot slot with
  | none => false
  | some s => s.managed && (s.avatarApplied && s.avatarSteamId == s.steamId)

/-! ## Presentation caches -/

/-- `ResetAppliedSlot`. -/
def resetAppliedSlot (slot : Slot) (incarnation : UInt64) : World :=
  w.withBridge
    { w.bridge with
      observedIncarnations := Function.update w.bridge.observedIncarnations slot incarnation
      pendingName := Function.update w.bridge.pendingName slot false
      pendingSid := Function.update w.bridge.pendingSid slot false
      pendingScoreboardFlair := Function.update w.bridge.pendingScoreboardFlair slot false
      appliedCrosshair := Function.update w.bridge.appliedCrosshair slot []
      appliedScoreboardFlair := Function.update w.bridge.appliedScoreboardFlair slot 0 }

/-- `ResetAppliedState`. -/
def resetAppliedState : World :=
  let w := w.withBridge
    { w.bridge with presentationGeneration := w.bridge.presentationGeneration + 1 }
  allSlots.foldl (fun w slot => w.resetAppliedSlot slot 0) w

/-- `BotHiderImplPlugin.Unload`. -/
def unloadImpl : World :=
  let w := w.resetAppliedState
  if w.bridge.client.isNone then w
  else w.bhDetach.withBridge { w.bridge with client := none }

/-! ## Queued writes -/

/-- `QueueVisibleWrite`. -/
def queueVisibleWrite (slot : Int) (incarnation : UInt64) (field : VisibleField) : World :=
  match w.bridge.client, slotOf slot with
  | some client, some slot =>
    if incarnation = 0 then w
    else
      w.withBridge
        { w.bridge with
          nextFrame := w.bridge.nextFrame ++
            [{ slot, incarnation, client, field
               generation := w.bridge.presentationGeneration }] }
  | _, _ => w

/-- Replaces a slot's player. -/
def setPlayer (slot : Slot) (player : Player) : World :=
  w.withEngine { w.engine with players := Function.update w.engine.players slot (some player) }

/-- `WriteVisibleName`. -/
def writeVisibleName (slot : Slot) (player : Player) (name : Bytes) (fault : Option Nat) :
    World :=
  let pending := w.withBridge
    { w.bridge with pendingName := Function.update w.bridge.pendingName slot true }
  if fault = some 0 then pending
  else
    let written := pending.setPlayer slot { player with playerName := name }
    if fault = some 1 then written
    else written.withBridge
      { written.bridge with pendingName := Function.update written.bridge.pendingName slot false }

/-- `WriteVisibleSid`. -/
def writeVisibleSid (slot : Slot) (player : Player) (sid : UInt64) (fault : Option Nat) : World :=
  let pending := w.withBridge
    { w.bridge with pendingSid := Function.update w.bridge.pendingSid slot true }
  if fault = some 0 then pending
  else
    let written := pending.setPlayer slot { player with steamId := sid }
    if fault = some 1 then written
    else written.withBridge
      { written.bridge with pendingSid := Function.update written.bridge.pendingSid slot false }

/-- `WriteVisibleCrosshair`: the world, and whether nothing threw. -/
def writeVisibleCrosshair (slot : Slot) (player : Player) (code : Bytes) (fault : Option Nat) :
    World × Bool :=
  if fault = some 0 then (w, false)
  else (w.setPlayer slot { player with crosshairCodes := code }, fault ≠ some 1)

/-- The loop of `TryApplyScoreboardFlair`: the ranks after it, how many were written, and
whether a write threw. -/
def writeRanks (flair : UInt32) (fault : Option Nat) : Nat → List UInt32 → List UInt32 × Nat × Bool
  | written, [] => ([], written, false)
  | written, rank :: ranks =>
    if rank = flair then
      let rest := writeRanks flair fault written ranks
      (rank :: rest.1, rest.2)
    else if fault = some written then (rank :: ranks, written + 1, true)
    else
      let rest := writeRanks flair fault (written + 1) ranks
      (flair :: rest.1, rest.2)

/-- `TryApplyScoreboardFlair`: the world, and what it returns. A rank write that throws
has already set the pending mark. -/
def tryApplyScoreboardFlair (slot : Slot) (player : Player) (itemDefIndex : UInt32)
    (fault : Option Nat) : World × Bool :=
  match player.ranks with
  | none => (w, false)
  | some ranks =>
    if ranks.isEmpty then (w, false)
    else
      let result := writeRanks itemDefIndex fault 0 ranks
      let written := w.setPlayer slot { player with ranks := some result.1 }
      let pending := w.bridge.pendingScoreboardFlair slot || result.2.1 ≠ 0
      let mark : Bool → World := fun pending => written.withBridge
        { written.bridge with
          pendingScoreboardFlair :=
            Function.update written.bridge.pendingScoreboardFlair slot pending }
      if result.2.2 then (mark true, false)
      else if pending then
        if fault = some result.2.1 then (mark true, false) else (mark false, true)
      else (written, true)

/-- The `write` callbacks of `ApplyVisibleName`, `ApplyVisibleSid`,
`ApplyVisibleCrosshair` and `ApplyVisibleScoreboardFlair`. -/
def writeVisible (slot : Slot) (player : Player) (snapshot : SlotSnapshot)
    (fault : Option Nat) : VisibleField → World
  | .name name => w.writeVisibleName slot player name fault
  | .steamId =>
    if w.bridge.pendingSid slot ∨ player.steamId ≠ snapshot.steamId then
      w.writeVisibleSid slot player snapshot.steamId fault
    else w
  | .crosshair code =>
    let written := w.writeVisibleCrosshair slot player code fault
    if written.2 then
      written.1.withBridge
        { written.1.bridge with
          appliedCrosshair := Function.update written.1.bridge.appliedCrosshair slot code }
    else written.1
  | .scoreboardFlair itemDefIndex =>
    let applied := w.tryApplyScoreboardFlair slot player itemDefIndex fault
    if applied.2 then
      applied.1.withBridge
        { applied.1.bridge with
          appliedScoreboardFlair :=
            Function.update applied.1.bridge.appliedScoreboardFlair slot itemDefIndex }
    else applied.1

/-- The closure `QueueVisibleWrite` queued. -/
def runVisibleWrite (write : VisibleWrite) (fault : Option Nat) : World :=
  if w.bridge.client ≠ some write.client ∨
      w.bridge.presentationGeneration ≠ write.generation then w
  else
    match w.readSlot write.slot.val with
    | none => w
    | some snapshot =>
      if !snapshot.managed ∨ snapshot.incarnation ≠ write.incarnation then w
      else
        let w := if w.bridge.observedIncarnations write.slot ≠ write.incarnation then
            w.resetAppliedSlot write.slot write.incarnation
          else w
        match w.engine.players write.slot with
        | none => w
        | some player => w.writeVisible write.slot player snapshot fault write.field

/-- `Server.NextFrame` runs its oldest action. -/
def runNextFrame (fault : Option Nat) : World :=
  match w.bridge.nextFrame with
  | [] => w
  | write :: rest =>
    (w.withBridge { w.bridge with nextFrame := rest }).runVisibleWrite write fault

/-! ## Reconciliation -/

/-- The engine call that throws in each part of an `ApplyManagedSlot`. -/
structure SlotFaults where
  name : Option Nat := none
  steamId : Option Nat := none
  crosshair : Option Nat := none
  scoreboardFlair : Option Nat := none

/-- The name part of `ReconcileVisibleIdentity`. -/
def reconcileName (slot : Slot) (snapshot : SlotSnapshot) (fault : Option Nat) : World :=
  match w.engine.players slot with
  | none => w
  | some player =>
    if w.bridge.pendingName slot ∨ player.playerName ≠ snapshot.name.text then
      w.writeVisibleName slot player snapshot.name.text fault
    else w

/-- The SteamID part of `ReconcileVisibleIdentity`. -/
def reconcileSid (slot : Slot) (snapshot : SlotSnapshot) (fault : Option Nat) : World :=
  match w.engine.players slot with
  | none => w
  | some player => w.writeVisible slot player snapshot fault .steamId

/-- The crosshair part of `ApplyManagedSlot`. -/
def reconcileCrosshair (slot : Slot) (snapshot : SlotSnapshot) (fault : Option Nat) : World :=
  match w.engine.players slot with
  | none => w
  | some player =>
    let cross := snapshot.crosshair.text
    if w.bridge.appliedCrosshair slot ≠ cross ∨ player.crosshairCodes ≠ cross then
      w.writeVisible slot player snapshot fault (.crosshair cross)
    else w

/-- `ScoreboardFlairMatches`. -/
def scoreboardFlairMatches (player : Player) (itemDefIndex : UInt32) : Bool :=
  match player.ranks with
  | none => false
  | some ranks => !ranks.isEmpty && ranks.all (· == itemDefIndex)

/-- The flair part of `ApplyManagedSlot`. -/
def reconcileFlair (slot : Slot) (snapshot : SlotSnapshot) (fault : Option Nat) : World :=
  match w.engine.players slot with
  | none => w
  | some player =>
    let flair := snapshot.scoreboardFlair
    if w.bridge.pendingScoreboardFlair slot ∨ w.bridge.appliedScoreboardFlair slot ≠ flair ∨
        !scoreboardFlairMatches player flair then
      w.writeVisible slot player snapshot fault (.scoreboardFlair flair)
    else w

/-- `ApplyManagedSlot`, but for the ping and the clan tag. -/
def applyManagedSlot (slot : Slot) (faults : SlotFaults) : World :=
  if w.bridge.client.isNone then w
  else
    match w.readSlot slot.val with
    | none => w.resetAppliedSlot slot 0
    | some snapshot =>
      if !snapshot.managed then w.resetAppliedSlot slot 0
      else
        let w := if w.bridge.observedIncarnations slot ≠ snapshot.incarnation then
            w.resetAppliedSlot slot snapshot.incarnation
          else w
        if snapshot.incarnation = 0 then w
        else
          let w := w.reconcileName slot snapshot faults.name
          let w := w.reconcileSid slot snapshot faults.steamId
          let w := w.reconcileCrosshair slot snapshot faults.crosshair
          w.reconcileFlair slot snapshot faults.scoreboardFlair

/-! ## Setters -/

/-- `SetBotSteamId`. -/
def setBotSteamId (slot : Int) (steamId64 : UInt64) (alloc : Bool) : World × Bool :=
  match w.readSlot slot with
  | none => (w, false)
  | some s =>
    let set := w.bhSetSteamId slot s.incarnation steamId64 alloc
    if !set.2 then (set.1, false)
    else (set.1.queueVisibleWrite slot s.incarnation .steamId, true)

/-- `SetPersonaName`; `normalized` is what `BuildBoundedVisiblePersonaName` returned. -/
def setPersonaName (call : SetNameCall) (slot : Int) (normalized : Bytes) : World × Bool :=
  if normalized.isEmpty then (w, false)
  else
    match w.readSlot slot with
    | none => (w, false)
    | some s =>
      let set := w.bhSetName call slot s.incarnation (some normalized) normalized.length
      if !set.2 then (set.1, false)
      else
        let name := ((set.1.readSlot slot).map fun s => s.name.text).getD []
        (set.1.queueVisibleWrite slot s.incarnation (.name name), true)

/-- `SetCrosshairCode`, once `"0"` is taken for the empty code. -/
def setCrosshairText (slot : Int) (incarnation : UInt64) (code : Bytes) : World × Bool :=
  let set := w.bhSetCrosshair slot incarnation (some (code ++ [0])) code.length
  if !set.2 then (set.1, false)
  else
    let crosshair := ((set.1.readSlot slot).map fun s => s.crosshair.text).getD []
    (set.1.queueVisibleWrite slot incarnation (.crosshair crosshair), true)

/-- `SetCrosshairCode`. -/
def setCrosshairCode (slot : Int) (code : Option Bytes) : World × Bool :=
  match code, w.readSlot slot with
  | some code, some s =>
    w.setCrosshairText slot s.incarnation (if code = ascii "0" then [] else code)
  | _, _ => (w, false)

/-- `SetScoreboardFlair`. -/
def setScoreboardFlair (slot : Int) (itemDefIndex : UInt32) : World × Bool :=
  match w.readSlot slot with
  | none => (w, false)
  | some s =>
    let set := w.bhSetFlair slot s.incarnation itemDefIndex
    if !set.2 then (set.1, false)
    else (set.1.queueVisibleWrite slot s.incarnation (.scoreboardFlair itemDefIndex), true)

/-! ## Avatars -/

/-- The path given to `TrySetBotAvatar`: `"0"`, or a file name with whether it names a PNG
of the avatar directory. -/
inductive AvatarPath
  | zero
  | file (accepted : Bool)
  deriving DecidableEq

/-- Replaces one element of `_avatarReads`. -/
def setAvatarRead (slot : Slot) (read : AvatarRead) : World :=
  w.withBridge
    { w.bridge with avatarReads := Function.update w.bridge.avatarReads slot read }

/-- The journal notes an accepted avatar command. -/
def accept (slot : Slot) (command : AvatarCommand) : World :=
  { w with
    journal :=
      { w.journal with
        accepted := Function.update w.journal.accepted slot
          (w.journal.accepted slot ++ [command]) } }

/-- `TrySetBotAvatar` with `"0"`: the pending result is ignored and the request
cleared. -/
def clearBotAvatar (slot : Slot) (incarnation : UInt64) : World × Bool :=
  let ignored := w.setAvatarRead slot { w.bridge.avatarReads slot with incarnation := 0 }
  let set := ignored.bhSetAvatar slot.val incarnation none 0 true
  if set.2 then (set.1.accept slot .clear, true) else (set.1, false)

/-- `Task.Run(() => ReadAvatar(path))` for a slot without a pending read. -/
def startAvatarRead (slot : Slot) (incarnation : UInt64) : World :=
  let id := w.journal.reads
  let started := w.setAvatarRead slot { incarnation, read := some { id } }
  World.accept { started with journal := { started.journal with reads := id + 1 } } slot (.file id)

/-- `TrySetBotAvatar`: the world, what it returns, and the error text. -/
def trySetBotAvatar (slot : Int) (pngPath : AvatarPath) : World × Bool × String :=
  match w.readSlot slot, slotOf slot with
  | some s, some index =>
    if !s.managed then (w, false, "unmanaged slot")
    else
      match pngPath with
      | .zero =>
        let cleared := w.clearBotAvatar index s.incarnation
        (cleared.1, cleared.2, "")
      | .file accepted =>
        if !accepted then (w, false, "expected a PNG in addons/avatars")
        else if (w.bridge.avatarReads index).read.isSome then (w, false, "avatar read pending")
        else (w.startAvatarRead index s.incarnation, true, "")
  | _, _ => (w, false, "bridge unavailable")

/-- `ReadAvatar`, of what reading the file gives: a file of the wrong length is an error. -/
def readAvatar (file : Option Bytes) : Option Bytes :=
  file.filter fun bytes => 0 < bytes.length ∧ bytes.length ≤ kAvatarMaxBytes

/-- A background read ends; `file` is what reading the file gave, `none` for an error. -/
def completeAvatarRead (slot : Slot) (file : Option Bytes) : World :=
  let pending := w.bridge.avatarReads slot
  match pending.read with
  | none => w
  | some task =>
    if task.result.isSome then w
    else
      let result := readAvatar file
      let completed := w.setAvatarRead slot
        { pending with read := some { task with result := some result } }
      { completed with
        journal :=
          { completed.journal with
            results := Function.update completed.journal.results task.id (some result) } }

/-- One round of the loop of `FinishAvatarReads`; `alloc` is the allocation of the native
call. -/
def finishAvatarRead (alloc : Bool) (slot : Slot) : World :=
  let pending := w.bridge.avatarReads slot
  match pending.read.bind ReadTask.result with
  | none => w
  | some result =>
    let w := w.setAvatarRead slot {}
    match w.readSlot slot.val with
    | none => w
    | some s =>
      if s.incarnation ≠ pending.incarnation ∨ pending.incarnation = 0 then w
      else
        match result with
        | none => w
        | some bytes =>
          (w.bhSetAvatar slot.val pending.incarnation (some bytes) bytes.length alloc).1

/-- `FinishAvatarReads`. -/
def finishAvatarReads (alloc : Slot → Bool) : World :=
  allSlots.foldl (fun w slot => w.finishAvatarRead (alloc slot) slot) w

end World

end BotHider.Model
