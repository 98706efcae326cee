import BotHider.Model.Avatar
import BotHider.Model.BotInfo
import BotHider.Model.Runtime

/-!
# BotHider — the state of the whole system

`World` holds every piece of state the plugin, its managed client and the engine
share: the slot manager, the identity pool, the slot bindings and queues of
`identity_state.cpp`, the hook frames and population transaction of
`identity_hooks.cpp`, the plugin's own settings, the avatar bookkeeping and the
managed client of `BridgeClient.cs` and `BotHiderImplPlugin.cs`. Everything runs
on the game thread, so thread-local state is plain state.

`journal` records what happened, for the statements to speak about; no modelled
function reads it.
-/

namespace BotHider.Model

/-! ## Identity state -/

/-- `PendingControllerRemoval`. -/
structure PendingControllerRemoval where
  controller : Nat
  handle : UInt32
  slot : Slot
  userId : UInt16
  referencedFrames : Nat := 0

/-- `PendingBotKick`. -/
structure PendingBotKick where
  slot : Slot
  client : Nat
  userId : UInt16
  incarnation : UInt64

/-- The globals of `identity_state.cpp`. -/
structure IdentityState where
  slotEntries : Slot → Option Nat := fun _ => none
  originalSlotNames : Slot → Bytes := fun _ => []
  pendingControllerRemovals : List PendingControllerRemoval := []
  pendingBotKicks : List PendingBotKick := []

/-! ## Hook frames -/

/-- The hooks whose frames are population transactions: `g_quotaFrames`,
`g_humanTeamFrames`, `g_joinTeamFrames`, `g_teardownFrames` and
`g_populationCommandFrames`. -/
inductive PopulationHook
  | quota
  | humanTeam
  | joinTeam
  | endMatch
  | command
  deriving DecidableEq

/-- The hooks whose frames are scoped restores: `g_voterFrames` and
`g_scriptIsBotFrames`. -/
inductive ScopedHook
  | voters
  | scriptIsBot
  deriving DecidableEq

/-- One element of a hook's frame vector. -/
inductive Frame
  | population (hook : PopulationHook) (enabled : Bool)
  | scoped (hook : ScopedHook) (snapshot : Option ScopedBotIdentityRestore)

/-- The state of `identity_hooks.cpp`. `frames` holds the frame vectors of all
hooks in one list, newest first: the vector of a hook is the frames that carry
it. -/
structure IdentityHooks where
  frames : List Frame := []
  populationTransactionDepth : Nat := 0
  populationTransactionRedisguise : Bool := false
  populationIdentity : Option ScopedBotIdentityRestore := none

/-! ## The plugin object -/

/-- `IdentityMode`. -/
inductive IdentityMode
  | player
  | bot
  deriving DecidableEq

/-- `HiderPlugin`. `startChangeLevelHook` lists the servers the hook is added to. -/
structure HiderPlugin where
  identityMode : IdentityMode := .bot
  startInPlayerMode : Bool := false
  useBotInfoName : Bool := false
  hookedGameServer : Option Nat := none
  startChangeLevelHook : List Nat := []
  loaded : Bool := false

/-! ## The managed client -/

/-- A `Task<byte[]>` of `TrySetBotAvatar`; `result` is `none` while it runs, and then
the bytes or an error. `id` tells the tasks apart. -/
structure ReadTask where
  id : Nat
  result : Option (Option Bytes) := none

/-- One element of `_avatarReads`. -/
structure AvatarRead where
  incarnation : UInt64 := 0
  read : Option ReadTask := none

/-- The field a queued visible write is about, with the value it captured. -/
inductive VisibleField
  | name (name : Bytes)
  | steamId
  | crosshair (code : Bytes)
  | scoreboardFlair (itemDefIndex : UInt32)

/-- What `QueueVisibleWrite` hands to `Server.NextFrame`. -/
structure VisibleWrite where
  slot : Slot
  incarnation : UInt64
  client : Nat
  generation : Nat
  field : VisibleField

/-- `BridgeClient` and the presentation caches of `BotHiderImplPlugin`. `client` tells
which client object `_client` is, `none` for null; it is kept only while connected, and
`clients` counts the objects made. -/
structure BridgeClient where
  client : Option Nat := none
  clients : Nat := 0
  avatarReads : Slot → AvatarRead := fun _ => {}
  presentationGeneration : Nat := 0
  observedIncarnations : Slot → UInt64 := fun _ => 0
  pendingName : Slot → Bool := fun _ => false
  pendingSid : Slot → Bool := fun _ => false
  pendingScoreboardFlair : Slot → Bool := fun _ => false
  appliedCrosshair : Slot → Bytes := fun _ => []
  appliedScoreboardFlair : Slot → UInt32 := fun _ => 0
  nextFrame : List VisibleWrite := []

/-! ## The journal -/

/-- A `bot_kick` the plugin dispatched. -/
structure Dispatch where
  kick : PendingBotKick
  name : Bytes

/-- An avatar command `TrySetBotAvatar` accepted. -/
inductive AvatarCommand
  | clear
  | file (id : Nat)

/-- What happened so far: the incarnations handed out and the kicks dispatched,
newest first; for each slot the avatar commands accepted since it was last
adopted, oldest first; the reads started, and the result of each finished one. -/
structure Journal where
  issued : List UInt64 := []
  dispatched : List Dispatch := []
  accepted : Slot → List AvatarCommand := fun _ => []
  reads : Nat := 0
  results : Nat → Option (Option Bytes) := fun _ => none

/-! ## The world -/

/-- The whole system. `draining` is the local `pending` of `DrainPendingBotKicks`: the
kicks its loop has yet to look at. -/
structure World where
  manager : FakeClientManager
  botInfo : BotInfoStore
  identity : IdentityState := {}
  hooks : IdentityHooks := {}
  plugin : HiderPlugin := {}
  avatar : AvatarOverrides
  bridge : BridgeClient := {}
  draining : List PendingBotKick := []
  engine : Engine
  journal : Journal := {}

namespace World

variable (w : World)

/-- `IsDisguiseEnabled`. -/
def isDisguiseEnabled : Bool := w.plugin.identityMode == .player

/-- `PopulationTransactionActive`. -/
def populationTransactionActive : Bool := w.hooks.populationTransactionDepth != 0

/-- A call that only writes the engine's memory. -/
def withEngine (e : Engine) : World := { w with engine := e }

/-- A call that only writes the slot manager. -/
def withManager (m : FakeClientManager) : World := { w with manager := m }

/-! ## Identity state -/

/-- `identity_state::BindSlot`. -/
def bindSlot (slot : Slot) (entry : Nat) (originalName : Option Bytes) : World :=
  { w with
    identity :=
      { w.identity with
        slotEntries := Function.update w.identity.slotEntries slot (some entry)
        originalSlotNames :=
          Function.update w.identity.originalSlotNames slot (cstr (originalName.getD [])) } }

/-- `identity_state::ReleaseSlot`. -/
def releaseSlot (slot : Slot) : World :=
  { w with
    botInfo := w.botInfo.releaseAssignment (w.identity.slotEntries slot)
    identity :=
      { w.identity with
        slotEntries := Function.update w.identity.slotEntries slot none
        originalSlotNames := Function.update w.identity.originalSlotNames slot [] }
    manager := w.manager.releaseSlot slot }

/-- `identity_state::ReleaseAll`. -/
def releaseAll : World :=
  { w with
    manager := w.manager.releaseAll
    botInfo := w.botInfo.resetAssignments
    identity := {} }

/-- `Manager().AdoptSlot`: the slot's record, and in the journal the incarnation it was
handed and a lifetime without avatar commands. -/
def adoptSlot (slot : Slot) (a : FakeClientManager.Adoption) (now : UInt64) : World :=
  let m := w.manager.adoptSlot slot a now
  { w with
    manager := m
    journal :=
      { w.journal with
        issued := m.getIncarnation slot :: w.journal.issued
        accepted := Function.update w.journal.accepted slot [] } }

end World

end BotHider.Model
