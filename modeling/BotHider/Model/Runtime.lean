import BotHider.Lib.Sweep
import BotHider.Model.Engine
import BotHider.Model.Manager

/-!
# BotHider — identity operations on the engine

The functions of `identity_runtime.cpp` and the `ScopedBotIdentityRestore` of
`identity_hooks.cpp`: they read the slot manager and write clients and
controllers. Each is a sweep over the slots; `Model/Sweeps.lean` says what each does to
one slot.
-/

namespace BotHider.Model

variable (m : FakeClientManager)

/-! ## Occupied SteamIDs -/

/-- The nonzero SteamID of a client in the list, other than the slot asked for. -/
def occupantSteamId (clients : List (Option Client)) (slot i : Nat) : Option UInt64 :=
  if i = slot then none
  else (clients[i]?.join.map Client.steamId).filter (· != 0)

/-- The SteamID a managed slot other than the one asked for has reserved. -/
def reservedSteamId (slot t : Slot) : Option UInt64 :=
  if t ≠ slot ∧ m.isManaged t then some (m.getSyntheticSid t) else none

/-- `CollectOccupiedSteamIds`; `none` when the check cannot be made. -/
def collectOccupiedSteamIds (e : Engine) (slot : Slot) : Option (List UInt64) :=
  match e.clientList with
  | none => none
  | some clients =>
    match clients[slot.val]?.join with
    | none => none
    | some _ =>
      some ((List.range clients.length).filterMap (occupantSteamId clients slot) ++
        allSlots.filterMap (reservedSteamId m slot))

/-- `SteamIdAvailability`. -/
inductive SteamIdAvailability
  | available
  | inUse
  | checkFailed
  deriving DecidableEq

/-- `CheckSteamIdAvailability`. -/
def checkSteamIdAvailability (e : Engine) (slot : Slot) (steamId : UInt64) :
    SteamIdAvailability :=
  if steamId = 0 then .checkFailed
  else
    match collectOccupiedSteamIds m e slot with
    | none => .checkFailed
    | some occupied => if occupied.contains steamId then .inUse else .available

/-! ## Disguise -/

/-- One slot of `ApplyManagedDisguise`. -/
def applyManagedDisguiseSlot (disguised : Bool) (e : Engine) (slot : Slot) : Engine :=
  if !m.isManaged slot then e
  else
    match e.resolveClientBySlot slot with
    | none => e
    | some _ =>
      let e := e.modifyClient slot
        (if disguised then Client.clearFakePlayer else Client.setFakePlayer)
      let e := e.setControllerFakeClientFlag slot (!disguised)
      let steamId := m.getSyntheticSid slot
      if steamId ≠ 0 then e.modifyClient slot (Client.writeSteamId steamId) else e

/-- `ApplyManagedDisguise`. -/
def applyManagedDisguise (disguised : Bool) (e : Engine) : Engine :=
  allSlots.foldl (applyManagedDisguiseSlot m disguised) e

/-- The undo the release paths share: fake-player flags, `FL_FAKECLIENT` and the
SteamID fields. -/
def restoreClient (e : Engine) (slot : Slot) : Engine :=
  ((e.modifyClient slot Client.setFakePlayer).setControllerFakeClientFlag slot true).modifyClient
    slot (Client.writeSteamId 0)

/-- One slot of `RestoreManagedClientsForEngineTeardown`. -/
def restoreManagedClientSlot (e : Engine) (slot : Slot) : Engine :=
  if !m.isManaged slot then e
  else
    match e.resolveClientBySlot slot with
    | none => e
    | some _ => restoreClient e slot

/-- `RestoreManagedClientsForEngineTeardown`. -/
def restoreManagedClients (e : Engine) : Engine :=
  allSlots.foldl (restoreManagedClientSlot m) e

/-! ## Scoped restore -/

/-- `BotIdentitySnapshot`; its slot is the index it is stored under. -/
structure BotIdentitySnapshot where
  client : Option Nat := none
  controller : Option Nat := none
  handle : UInt32 := 0xFFFFFFFF
  userId : UInt16 := 0
  connectionFlags : BitVec 8 := 0
  connectionFlagsMask : BitVec 8 := 0
  fakePlayer : BitVec 8 := 0
  controllerFlags : BitVec 32 := 0
  controllerFlagsMask : BitVec 32 := 0

/-- `ScopedBotIdentityRestore`: the snapshots of one scope. -/
abbrev ScopedBotIdentityRestore := Slot → BotIdentitySnapshot

namespace BotIdentitySnapshot

/-- The snapshot of a client, before its controller is looked at. -/
def ofClient (c : Client) : BotIdentitySnapshot :=
  { client := some c.addr
    userId := c.userId
    connectionFlags := c.connectionFlags
    fakePlayer := c.fakePlayer
    connectionFlagsMask := c.connectionFlags ^^^ c.setFakePlayer.connectionFlags }

/-- The snapshot once the controller is known. -/
def withController (snapshot : BotIdentitySnapshot) (k : Entity) : BotIdentitySnapshot :=
  { snapshot with
    controller := some k.addr
    handle := k.handle
    controllerFlags := k.flags
    controllerFlagsMask := k.flags ^^^ (k.withFakeClient true).flags }

variable (snapshot : BotIdentitySnapshot)

/-- The client in the slot is still the one captured. -/
def Bound (c : Client) : Prop :=
  snapshot.client = some c.addr ∧ c.userId = snapshot.userId

instance (c : Client) : Decidable (snapshot.Bound c) := by unfold Bound; infer_instance

/-- The controller is still the one captured, and not going away. -/
def BoundController (k : Entity) : Prop :=
  snapshot.controller = some k.addr ∧ k.LiveController ∧ k.handle = snapshot.handle

instance (k : Entity) : Decidable (snapshot.BoundController k) := by
  unfold BoundController; infer_instance

/-- The client write of `Restore`. -/
def mergeClient (c : Client) : Client :=
  { c with
    connectionFlags :=
      Mask.merge c.connectionFlags snapshot.connectionFlags snapshot.connectionFlagsMask
    fakePlayer := if snapshot.fakePlayer ≠ 1 then snapshot.fakePlayer else c.fakePlayer }

/-- The controller write of `Restore`. -/
def mergeController (k : Entity) : Entity :=
  { k with
    flags := Mask.merge k.flags snapshot.controllerFlags snapshot.controllerFlagsMask }

end BotIdentitySnapshot

/-- One slot of `ScopedBotIdentityRestore::Capture`. -/
def captureSlot (s : Engine × ScopedBotIdentityRestore) (slot : Slot) :
    Engine × ScopedBotIdentityRestore :=
  if !m.isManaged slot then s
  else
    match s.1.resolveClientBySlot slot with
    | none => s
    | some c =>
      let snapshot := BotIdentitySnapshot.ofClient c
      let e := s.1.modifyClient slot Client.setFakePlayer
      match e.resolveController c with
      | none => (e, Function.update s.2 slot snapshot)
      | some k =>
        if k.beingDeleted then (e, Function.update s.2 slot snapshot)
        else
          (e.modifyEntity c.entityIndex (Entity.withFakeClient true),
            Function.update s.2 slot (snapshot.withController k))

/-- `ScopedBotIdentityRestore::Capture`: every managed slot looks like a bot, and
what it looked like is remembered. -/
def capture (e : Engine) : Engine × ScopedBotIdentityRestore :=
  allSlots.foldl (captureSlot m) (e, fun _ => {})

/-- One slot of `ScopedBotIdentityRestore::Restore`. -/
def restoreSlot (snapshots : ScopedBotIdentityRestore) (e : Engine) (slot : Slot) : Engine :=
  let snapshot := snapshots slot
  if !m.isManaged slot then e
  else
    match e.resolveClientBySlot slot with
    | none => e
    | some c =>
      -- a null snapshot client is bound to no client
      if ¬ snapshot.Bound c then e
      else
        let e := e.modifyClient slot snapshot.mergeClient
        match e.resolveController c with
        | none => e
        | some k =>
          if ¬ snapshot.BoundController k then e
          else e.modifyEntity c.entityIndex snapshot.mergeController

/-- `ScopedBotIdentityRestore::Restore`. -/
def restore (snapshots : ScopedBotIdentityRestore) (e : Engine) : Engine :=
  allSlots.foldl (restoreSlot m snapshots) e

end BotHider.Model
