import BotHider.Lib.Layout
import BotHider.Model.Packing
import BotHider.Model.Runtime

/-!
# BotHider — the engine's memory, byte by byte

`serversideclient_ref.h`, `entity_access.cpp` and the loops of `identity_runtime.cpp` and
`identity_hooks.cpp` that write clients and entities, as they run on the bytes of the
process: every field is at an offset from a pointer, and everything is found by following
pointers.

`EngineMemory.engine` is the `Engine` that lies in the bytes. `Memory/Fields.lean` and
`Memory/Simulation.lean` show that the functions here do to the bytes what those of
`Model/Engine.lean`, `Model/Runtime.lean` and `Model/Packing.lean` do to it.
-/

namespace BotHider.Model

/-! ## Memory -/

def readPointer (a : Nat) : Read Nat := loadLE a 8

def readByte (a : Nat) : Read (BitVec 8) := BitVec.ofNat 8 <$> loadLE a 1

def readUInt16 (a : Nat) : Read UInt16 := UInt16.ofNat <$> loadLE a 2

def readWord (a : Nat) : Read (BitVec 32) := BitVec.ofNat 32 <$> loadLE a 4

def readInt (a : Nat) : Read Int := BitVec.toInt <$> readWord a

theorem uses_readInt (a : Nat) (m : Memory) : (readInt a).uses m = Set.Ico a (a + 4) := by
  unfold readInt readWord
  rw [Read.uses_map, Read.uses_map, uses_loadLE]

theorem uses_readUInt16 (a : Nat) (m : Memory) : (readUInt16 a).uses m = Set.Ico a (a + 2) := by
  unfold readUInt16
  rw [Read.uses_map, uses_loadLE]

theorem uses_readByte (a : Nat) (m : Memory) : (readByte a).uses m = Set.Ico a (a + 1) := by
  unfold readByte
  rw [Read.uses_map, uses_loadLE]

theorem uses_readPointer (a : Nat) (m : Memory) : (readPointer a).uses m = Set.Ico a (a + 8) := by
  unfold readPointer
  rw [uses_loadLE]

def writeByte (a : Nat) (v : BitVec 8) (m : Memory) : Memory := storeLE a 1 v.toNat m

def writeWord (a : Nat) (v : BitVec 32) (m : Memory) : Memory := storeLE a 4 v.toNat m

def writeUInt64 (a : Nat) (v : UInt64) (m : Memory) : Memory := storeLE a 8 v.toNat m

/-- The bytes before a NUL, at most `n`; `none` when one cannot be read. -/
def readString (readable : Nat → Bool) : Nat → Nat → Read (Option Bytes)
  | 0, _ => pure (some [])
  | n + 1, a =>
    if readable a then do
      let c ← Read.at' a
      if c = 0 then pure (some [])
      else do
        let rest ← readString readable n (a + 1)
        pure (rest.map (c :: ·))
    else pure none

/-- A text is read in the bytes it may have. -/
theorem uses_readString (readable : Nat → Bool) (n a : Nat) (m : Memory) :
    (readString readable n a).uses m ⊆ Set.Ico a (a + n) := by
  induction n generalizing a with
  | zero => exact Set.empty_subset _
  | succ n ih =>
    unfold readString
    split
    · rw [Read.uses_bind]
      refine Set.union_subset ?_ ?_
      · rintro _ rfl
        exact ⟨le_rfl, by omega⟩
      · rw [Read.uses_ite]
        split
        · exact Set.empty_subset _
        · rw [Read.uses_bind, Read.uses_pure, Set.union_empty]
          exact (ih (a + 1)).trans (Set.Ico_subset_Ico (by omega) (by omega))
    · exact Set.empty_subset _

/-! ## What the plugin is bound to -/

/-- `offsets.h` and the offsets of `serversideclient_ref.h`, which are not negative once
they are loaded; the Schema fields may be missing. -/
structure Offsets where
  nameOffset : Nat
  entityIndexOffset : Nat
  connectionTypeFlagsOffset : Nat
  fakePlayerOffset : Nat
  userIdOffset : Nat
  steamIdOffset : Nat
  steamIdMirrorOffset : Nat
  isHltvOffset : Nat
  clientListOffset : Nat
  entitySystemIdentityChunksOffset : Nat
  entityIdentitySize : Nat
  entityIdentityInstanceOffset : Nat
  entityIdentityClassNameOffset : Nat
  baseEntityFlagsOffset : Nat
  botPawnHandleOffset : Option Nat
  idleTimeOffset : Option Nat

/-- `offsets::kEntListChunkSize`. -/
def kEntListChunkSize : Nat := 512

/-- `char className[64]` of the callers. -/
def kClassNameCap : Nat := 64

/-- `"cs_player_controller"`. -/
def kPlayerController : Bytes := ascii "cs_player_controller"

/-- The offsets, and the accessors of the engine's SDK: `Count` and `Element` of a
`CUtlVector<void*>`, `m_pEntity->m_flags` (`none` when `m_pEntity` is null) and `GetRefEHandle`
of a `CEntityInstance`, `EF_DELETE_IN_PROGRESS | EF_MARKED_FOR_DELETE`, and the addresses that
`memory::Read` can read. -/
structure EngineBinding extends Offsets where
  count : Nat → Read Int
  element : Nat → Nat → Read Nat
  identityFlags : Nat → Read (Option (BitVec 32))
  refEHandle : Nat → Read UInt32
  deleteFlags : BitVec 32
  mapped : Nat → Bool

namespace EngineBinding

variable (b : EngineBinding)

/-! ## `serversideclient_ref.h` -/

/-- A text at a pointer, up to its NUL or the end of the address space. -/
def readText (text : Nat) : Read (Option Bytes) := readString (fun _ => true) (2 ^ 64) text

/-- `ssc::ReadName`, with the text it points to. -/
def readName (client : Nat) : Read (Option Bytes) :=
  if client = 0 then pure none
  else do
    let name ← readPointer (client + b.nameOffset)
    if name = 0 then pure none else readText name

/-- `ssc::ClearFakePlayer`. -/
def clearFakePlayer (client : Nat) (m : Memory) : Memory :=
  let connectionFlags := (readByte (client + b.connectionTypeFlagsOffset)).run m
  writeByte (client + b.fakePlayerOffset) 0
    (writeByte (client + b.connectionTypeFlagsOffset)
      ((connectionFlags &&& ~~~0x08#8) ||| 0x01#8) m)

/-- `ssc::SetFakePlayer`. -/
def setFakePlayer (client : Nat) (m : Memory) : Memory :=
  let connectionFlags := (readByte (client + b.connectionTypeFlagsOffset)).run m
  writeByte (client + b.fakePlayerOffset) 1
    (writeByte (client + b.connectionTypeFlagsOffset)
      ((connectionFlags &&& ~~~0x01#8) ||| 0x08#8) m)

/-- `ssc::WriteSteamId`. -/
def writeSteamId (client : Nat) (steamId : UInt64) (m : Memory) : Memory :=
  writeUInt64 (client + b.steamIdMirrorOffset) steamId
    (writeUInt64 (client + b.steamIdOffset) steamId m)

/-- `ssc::IsFakePlayerSet`. -/
def isFakePlayerSet (client : Nat) : Read Bool :=
  (· == 1) <$> readByte (client + b.fakePlayerOffset)

/-- `ssc::IsHltv`. -/
def isHltv (client : Nat) : Read Bool :=
  if client = 0 then pure false else (· != 0) <$> readByte (client + b.isHltvOffset)

/-! ## `entity_access.cpp` -/

/-- `SafeReadPointer`, null where it fails. -/
def safeReadPointer (address : Nat) : Read Nat :=
  if (List.range 8).all fun i => b.mapped (address + i) then readPointer address else pure 0

/-- `SafeReadString`, empty where it fails. -/
def safeReadString (address capacity : Nat) : Read Bytes := do
  let source ← b.safeReadPointer address
  if source = 0 then pure []
  else do
    let text ← readString b.mapped (capacity - 1) source
    pure (text.getD [])

/-- `ResolveClientBySlot`; `0` is the null pointer. -/
def resolveClientBySlot (gameServer : Nat) (slot : Int) : Read Nat :=
  if gameServer = 0 then pure 0
  else do
    let count ← b.count (gameServer + b.clientListOffset)
    if count < 0 ∨ count > 256 ∨ slot < 0 ∨ slot ≥ count then pure 0
    else b.element (gameServer + b.clientListOffset) slot.toNat

/-- `ResolveEntityInstance`: the instance and the class name. -/
def resolveEntityInstance (entitySystemGlobal : Nat) (entityIndex : Int) (classnameCap : Nat) :
    Read (Nat × Bytes) :=
  if entitySystemGlobal = 0 ∨ entityIndex ≤ 0 ∨ entityIndex ≥ 0x8000 then pure (0, [])
  else do
    let entitySystem ← b.safeReadPointer entitySystemGlobal
    if entitySystem = 0 then pure (0, [])
    else do
      let chunk ← b.safeReadPointer (entitySystem + b.entitySystemIdentityChunksOffset +
        entityIndex.toNat / kEntListChunkSize * 8)
      if chunk = 0 then pure (0, [])
      else do
        let identity := chunk + entityIndex.toNat % kEntListChunkSize * b.entityIdentitySize
        let className ← if classnameCap = 0 then pure []
          else b.safeReadString (identity + b.entityIdentityClassNameOffset) classnameCap
        let entity ← b.safeReadPointer (identity + b.entityIdentityInstanceOffset)
        pure (entity, className)

/-- `IsEntityBeingDeleted`. -/
def isEntityBeingDeleted (entity : Nat) : Read Bool :=
  if entity = 0 then pure true
  else do
    match ← b.identityFlags entity with
    | none => pure true
    | some flags => pure (flags &&& b.deleteFlags != 0)

/-- `ResolveClientPawn` from the pawn handle on. -/
def resolvePawn (entitySystemGlobal : Nat) (pawnHandle : UInt32) : Read (Option PawnRef) :=
  if pawnHandle = 0xFFFFFFFF then pure none
  else do
    let pawn ← b.resolveEntityInstance entitySystemGlobal (entryIndex pawnHandle) 0
    let deleted ← b.isEntityBeingDeleted pawn.1
    if pawn.1 = 0 ∨ deleted = true then pure none
    else do
      let handle ← b.refEHandle pawn.1
      if handle ≠ pawnHandle then pure none else pure (some ⟨pawn.1, pawnHandle⟩)

/-- `ResolveClientPawn`. -/
def resolveClientPawn (entitySystemGlobal client : Nat) : Read (Option PawnRef) :=
  match b.botPawnHandleOffset with
  | none => pure none
  | some botPawnHandleOffset =>
    if client = 0 then pure none
    else do
      let entityIndex ← readInt (client + b.entityIndexOffset)
      let controller ← b.resolveEntityInstance entitySystemGlobal entityIndex kClassNameCap
      let deleted ← b.isEntityBeingDeleted controller.1
      if controller.1 = 0 ∨ controller.2 ≠ kPlayerController ∨ deleted = true then pure none
      else do
        let pawnHandle ← readWord (controller.1 + botPawnHandleOffset)
        b.resolvePawn entitySystemGlobal (UInt32.ofBitVec pawnHandle)

/-- `ResetIdleTimerForClient`; the bits of `0.0F` are all zero. -/
def resetIdleTimerForClient (entitySystemGlobal client : Nat) (m : Memory) : Memory :=
  match (b.resolveClientPawn entitySystemGlobal client).run m, b.idleTimeOffset with
  | some pawn, some idleTimeOffset => writeWord (pawn.pawn + idleTimeOffset) 0 m
  -- no pawn, or the Schema has no such field
  | _, _ => m

end EngineBinding

/-! ## The engine in the bytes -/

/-- The bytes, and the pointers everything is found from: the game server of the network
service and `g_entitySystemGlobal`, each `0` when it is null. `utilRemove` and `players` are
as in `Engine`. -/
structure EngineMemory where
  memory : Memory
  gameServer : Nat
  entitySystemGlobal : Nat
  utilRemove : Bool
  players : Slot → Option Player

/-- What is only read of a client. -/
structure FixedClient where
  addr : Nat
  name : Option Bytes
  entityIndex : Int
  userId : UInt16
  hltv : Bool

/-- What is only read of an entity. -/
structure FixedEntity where
  addr : Nat
  handle : UInt32
  className : Bytes
  beingDeleted : Bool
  pawnHandle : UInt32

/-- What is only read: the clients of the list, which is longer than any that is read when
the count is out of bounds, and the entities. -/
structure FixedEngine where
  clients : List (Option FixedClient)
  entities : Nat → Option FixedEntity

/-- The controller of some client has the handle of the entity as its pawn's. -/
def FixedEngine.isPawn (f : FixedEngine) (j : Nat) : Bool :=
  f.clients.reduceOption.any fun client =>
    match f.entities client.entityIndex.toNat, f.entities j with
    | some controller, some pawn =>
      controller.className == kPlayerController && controller.pawnHandle == pawn.handle
    | _, _ => false

/-- What is written: fields of the client at an index of the list and of the entity at an
index of the entity list. -/
inductive EngineCell
  | connectionFlags (i : Nat)
  | fakePlayer (i : Nat)
  | steamId (i : Nat)
  | steamIdMirror (i : Nat)
  | flags (j : Nat)
  | idleTime (j : Nat)
  deriving DecidableEq

namespace EngineBinding

variable (b : EngineBinding)

def fixedClient (client : Nat) : Read (Option FixedClient) :=
  if client = 0 then pure none
  else do
    let name ← b.readName client
    let entityIndex ← readInt (client + b.entityIndexOffset)
    let userId ← readUInt16 (client + b.userIdOffset)
    let hltv ← b.isHltv client
    pure (some ⟨client, name, entityIndex, userId, hltv⟩)

/-- A list longer than any that is read. -/
def tooManyClients : List (Option FixedClient) := List.replicate 257 none

def fixedClients (gameServer : Nat) : Read (List (Option FixedClient)) :=
  if gameServer = 0 then pure []
  else do
    let count ← b.count (gameServer + b.clientListOffset)
    if count < 0 ∨ count > 256 then pure tooManyClients
    else Read.forList (fun i => do
      let client ← b.element (gameServer + b.clientListOffset) i
      b.fixedClient client) (List.range count.toNat)

/-- The pawn handle in a controller; no other entity has one. -/
def pawnHandleAt (entity : Nat) (className : Bytes) : Read UInt32 :=
  match b.botPawnHandleOffset with
  | none => pure 0
  | some botPawnHandleOffset =>
    if className = kPlayerController then
      UInt32.ofBitVec <$> readWord (entity + botPawnHandleOffset)
    else pure 0

def fixedEntity (entitySystemGlobal j : Nat) : Read (Option FixedEntity) := do
  let entity ← b.resolveEntityInstance entitySystemGlobal j kClassNameCap
  if entity.1 = 0 then pure none
  else do
    let handle ← b.refEHandle entity.1
    let beingDeleted ← b.isEntityBeingDeleted entity.1
    let pawnHandle ← b.pawnHandleAt entity.1 entity.2
    pure (some ⟨entity.1, handle, entity.2, beingDeleted, pawnHandle⟩)

def fixedEngine (gameServer entitySystemGlobal : Nat) : Read FixedEngine := do
  let clients ← b.fixedClients gameServer
  let entities ← Read.pi (b.fixedEntity entitySystemGlobal)
  pure ⟨clients, entities⟩

/-- Where a cell lies. Only a pawn has an idle timer. -/
def span (f : FixedEngine) : EngineCell → Option (Nat × Nat)
  | .connectionFlags i => f.clients[i]?.join.map fun c => (c.addr + b.connectionTypeFlagsOffset, 1)
  | .fakePlayer i => f.clients[i]?.join.map fun c => (c.addr + b.fakePlayerOffset, 1)
  | .steamId i => f.clients[i]?.join.map fun c => (c.addr + b.steamIdOffset, 8)
  | .steamIdMirror i => f.clients[i]?.join.map fun c => (c.addr + b.steamIdMirrorOffset, 8)
  | .flags j => (f.entities j).map fun k => (k.addr + b.baseEntityFlagsOffset, 4)
  | .idleTime j =>
    if f.isPawn j then
      (f.entities j).bind fun k => b.idleTimeOffset.map fun offset => (k.addr + offset, 4)
    else none

/-- The fixed part and the cells of an engine. -/
def layout (gameServer entitySystemGlobal : Nat) : Layout FixedEngine EngineCell where
  fixed := b.fixedEngine gameServer entitySystemGlobal
  span := b.span

end EngineBinding

/-- The text of a class name. -/
def classNameText (className : Bytes) : String :=
  String.ofList (className.map fun c => Char.ofNat c.toNat)

/-- The client with the values of its cells. -/
def FixedClient.withCells (f : FixedClient) (value : EngineCell → Nat) (i : Nat) : Client where
  addr := f.addr
  name := f.name
  entityIndex := f.entityIndex
  connectionFlags := BitVec.ofNat 8 (value (.connectionFlags i))
  fakePlayer := BitVec.ofNat 8 (value (.fakePlayer i))
  userId := f.userId
  steamId := UInt64.ofNat (value (.steamId i))
  steamIdMirror := UInt64.ofNat (value (.steamIdMirror i))
  hltv := f.hltv

/-- The entity with the value of its flag word. -/
def FixedEntity.withCells (f : FixedEntity) (value : EngineCell → Nat) (j : Nat) : Entity where
  addr := f.addr
  handle := f.handle
  className := classNameText f.className
  beingDeleted := f.beingDeleted
  flags := BitVec.ofNat 32 (value (.flags j))

namespace EngineMemory

variable (b : EngineBinding) (e : EngineMemory)

/-- The layout of the bytes, from the pointers there are. -/
def layout : Layout FixedEngine EngineCell := b.layout e.gameServer e.entitySystemGlobal

/-- What is only read. -/
def fixed : FixedEngine := (e.layout b).fixed.run e.memory

/-- What a cell holds. -/
def value : EngineCell → Nat := (e.layout b).value e.memory

/-- No cell overlaps another one or what is only read: the objects of the engine lie apart, and
so do the fields in them. -/
def Laid : Prop := (e.layout b).Laid e.memory

/-- The engine that lies in the bytes. -/
def engine : Engine where
  gameServer :=
    if e.gameServer = 0 then none
    else some
      { addr := e.gameServer
        clients := (e.fixed b).clients.mapIdx fun i c => c.map (·.withCells (e.value b) i) }
  entitySystem := e.entitySystemGlobal != 0
  utilRemove := e.utilRemove
  entities j := ((e.fixed b).entities j).map (·.withCells (e.value b) j)
  players := e.players

/-- The pawn handles in the controllers, as `Packing` has them. -/
def pawnHandles : Option (Nat → UInt32) :=
  b.botPawnHandleOffset.map fun _ j => (((e.fixed b).entities j).map (·.pawnHandle)).getD 0

/-- The bytes changed. -/
def withMemory (m : Memory) : EngineMemory := { e with memory := m }

/-! ## `identity_runtime.cpp` and `identity_hooks.cpp` -/

/-- The pointer of the client in a slot. -/
def client (slot : Nat) : Nat := (b.resolveClientBySlot e.gameServer slot).run e.memory

/-- The instance and the class name at the entity index of a client. -/
def controller (client : Nat) : Nat × Bytes :=
  (b.resolveEntityInstance e.entitySystemGlobal
    ((readInt (client + b.entityIndexOffset)).run e.memory) kClassNameCap).run e.memory

/-- The flag word of an entity. -/
def flags (entity : Nat) : BitVec 32 := (readWord (entity + b.baseEntityFlagsOffset)).run e.memory

/-- A write to the flag word of an entity. -/
def modifyFlags (entity : Nat) (f : BitVec 32 → BitVec 32) : EngineMemory :=
  e.withMemory (writeWord (entity + b.baseEntityFlagsOffset) (f (e.flags b entity)) e.memory)

/-- A write to the client in a slot, if there is one. -/
def writeClient (slot : Nat) (write : Nat → Memory → Memory) : EngineMemory :=
  let client := e.client b slot
  if client = 0 then e else e.withMemory (write client e.memory)

/-- `SetControllerFakeClientFlag`. -/
def setControllerFakeClientFlag (slot : Nat) (fakeClient : Bool) : EngineMemory :=
  let client := e.client b slot
  if client = 0 then e
  else
    let controller := e.controller b client
    if controller.1 = 0 ∨ controller.2 ≠ kPlayerController then e
    else
      e.modifyFlags b controller.1 fun flags =>
        if fakeClient then flags ||| kEntityFlagFakeClient else flags &&& ~~~kEntityFlagFakeClient

/-- The undo the release paths share. -/
def restoreClient (slot : Nat) : EngineMemory :=
  let client := e.client b slot
  if client = 0 then e
  else
    let e := e.withMemory (b.setFakePlayer client e.memory)
    let e := e.setControllerFakeClientFlag b slot true
    e.withMemory (b.writeSteamId client 0 e.memory)

section Loops

variable (m : FakeClientManager)

/-- One slot of `ApplyManagedDisguise`. -/
def applyManagedDisguiseSlot (disguised : Bool) (e : EngineMemory) (slot : Slot) : EngineMemory :=
  if !m.isManaged slot then e
  else
    let client := e.client b slot
    if client = 0 then e
    else
      let e := e.withMemory
        ((if disguised then b.clearFakePlayer client else b.setFakePlayer client) e.memory)
      let e := e.setControllerFakeClientFlag b slot (!disguised)
      let steamId := m.getSyntheticSid slot
      if steamId ≠ 0 then e.withMemory (b.writeSteamId client steamId e.memory) else e

/-- `ApplyManagedDisguise`. -/
def applyManagedDisguise (disguised : Bool) : EngineMemory :=
  allSlots.foldl (applyManagedDisguiseSlot b m disguised) e

/-- One slot of `RestoreManagedClientsForEngineTeardown`. -/
def restoreManagedClientSlot (e : EngineMemory) (slot : Slot) : EngineMemory :=
  if !m.isManaged slot then e else e.restoreClient b slot

/-- `RestoreManagedClientsForEngineTeardown`. -/
def restoreManagedClients : EngineMemory := allSlots.foldl (restoreManagedClientSlot b m) e

/-- One slot of `ScopedBotIdentityRestore::Capture`. -/
def captureSlot (s : EngineMemory × ScopedBotIdentityRestore) (slot : Slot) :
    EngineMemory × ScopedBotIdentityRestore :=
  if !m.isManaged slot then s
  else
    let client := s.1.client b slot
    if client = 0 then s
    else
      -- `userId`, the flags and the fake-player byte are read before `SetFakePlayer`
      let connectionFlags := (readByte (client + b.connectionTypeFlagsOffset)).run s.1.memory
      let e := s.1.withMemory (b.setFakePlayer client s.1.memory)
      let snapshot : BotIdentitySnapshot :=
        { client := some client
          userId := (readUInt16 (client + b.userIdOffset)).run s.1.memory
          connectionFlags := connectionFlags
          fakePlayer := (readByte (client + b.fakePlayerOffset)).run s.1.memory
          connectionFlagsMask := connectionFlags ^^^
            (readByte (client + b.connectionTypeFlagsOffset)).run e.memory }
      let controller := e.controller b client
      if controller.1 = 0 ∨ controller.2 ≠ kPlayerController ∨
          (b.isEntityBeingDeleted controller.1).run e.memory = true then
        (e, Function.update s.2 slot snapshot)
      else
        let before := e.flags b controller.1
        let e' := e.modifyFlags b controller.1 (· ||| kEntityFlagFakeClient)
        (e', Function.update s.2 slot
          { snapshot with
            controller := some controller.1
            handle := (b.refEHandle controller.1).run e.memory
            controllerFlags := before
            controllerFlagsMask := before ^^^ e'.flags b controller.1 })

/-- `ScopedBotIdentityRestore::Capture`. -/
def capture : EngineMemory × ScopedBotIdentityRestore :=
  allSlots.foldl (captureSlot b m) (e, fun _ => {})

/-- The client half of one slot of `Restore`. -/
def mergeClient (snapshot : BotIdentitySnapshot) (client : Nat) : EngineMemory :=
  let flags := (readByte (client + b.connectionTypeFlagsOffset)).run e.memory
  let e := e.withMemory (writeByte (client + b.connectionTypeFlagsOffset)
    (Mask.merge flags snapshot.connectionFlags snapshot.connectionFlagsMask) e.memory)
  if snapshot.fakePlayer ≠ 1 then
    e.withMemory (writeByte (client + b.fakePlayerOffset) snapshot.fakePlayer e.memory)
  else e

/-- One slot of `ScopedBotIdentityRestore::Restore`. -/
def restoreSlot (snapshots : ScopedBotIdentityRestore) (e : EngineMemory) (slot : Slot) :
    EngineMemory :=
  let snapshot := snapshots slot
  if !m.isManaged slot then e
  else
    let client := e.client b slot
    if client = 0 ∨ snapshot.client ≠ some client ∨
        (readUInt16 (client + b.userIdOffset)).run e.memory ≠ snapshot.userId then e
    else
      let e := e.mergeClient b snapshot client
      -- a snapshot without a controller binds to none
      let controller := e.controller b client
      if controller.1 = 0 ∨ snapshot.controller ≠ some controller.1 ∨
          controller.2 ≠ kPlayerController ∨
          (b.isEntityBeingDeleted controller.1).run e.memory = true ∨
          (b.refEHandle controller.1).run e.memory ≠ snapshot.handle then e
      else
        e.modifyFlags b controller.1 fun flags =>
          Mask.merge flags snapshot.controllerFlags snapshot.controllerFlagsMask

/-- `ScopedBotIdentityRestore::Restore`. -/
def restore (snapshots : ScopedBotIdentityRestore) : EngineMemory :=
  allSlots.foldl (restoreSlot b m snapshots) e

/-- One slot of the reset of idle timers in `HookGameFramePost`. -/
def resetIdleSlot (e : EngineMemory) (slot : Slot) : EngineMemory :=
  if !m.isManaged slot then e
  else
    let client := e.client b slot
    if client = 0 then e
    else e.withMemory (b.resetIdleTimerForClient e.entitySystemGlobal client e.memory)

/-- The reset of idle timers in `HookGameFramePost`. -/
def resetIdleTimers : EngineMemory := allSlots.foldl (resetIdleSlot b m) e

/-- One slot of `ApplyBotFlagOverride`. -/
def applyBotFlagSlot (s : EngineMemory × List PawnRef) (slot : Slot) :
    EngineMemory × List PawnRef :=
  if !m.isManaged slot then s
  else
    match (b.resolveClientPawn s.1.entitySystemGlobal (s.1.client b slot)).run s.1.memory with
    | none => s
    | some ref =>
      -- pawns that are shared are processed once
      if s.1.flags b ref.pawn &&& kEntityFlagBot = 0 then s
      else (s.1.modifyFlags b ref.pawn (· &&& ~~~kEntityFlagBot), s.2 ++ [ref])

/-- `ApplyBotFlagOverride`. -/
def applyBotFlagOverride (modified : List PawnRef) : EngineMemory × List PawnRef :=
  allSlots.foldl (applyBotFlagSlot b m) (e, modified)

/-- The body of the loop of `RestoreBotFlagOverride`. -/
def restoreBotFlag (e : EngineMemory) (ref : PawnRef) : EngineMemory :=
  let pawn := ((b.resolveEntityInstance e.entitySystemGlobal (entryIndex ref.handle) 0).run
    e.memory).1
  if pawn ≠ ref.pawn ∨ (b.isEntityBeingDeleted pawn).run e.memory = true ∨
      (b.refEHandle pawn).run e.memory ≠ ref.handle then e
  else e.modifyFlags b pawn (· ||| kEntityFlagBot)

/-- `RestoreBotFlagOverride`. -/
def restoreBotFlagOverride (pawns : List PawnRef) : EngineMemory :=
  pawns.foldl (restoreBotFlag b) e

end Loops

end EngineMemory

end BotHider.Model
