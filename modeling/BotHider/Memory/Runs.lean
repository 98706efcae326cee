import BotHider.Lib.Run
import BotHider.Memory.Simulation

/-!
# BotHider — runs over the bytes

The plugin's writes to the engine follow each other in any order, with anything the engine
does between them. `EngineCall` is one of them, over the bytes (`EngineMemory`) or over the
records (`EngineView`); after every run the two agree.

* `step_view` — one call.
* `bytes_refine_records` — a run, and the bytes it leaves alone.
-/

namespace BotHider.Model

/-! ## Calls -/

/-- A write of the plugin to clients and entities, or a change the engine makes: `σ` is what
an engine is. -/
inductive EngineCall (σ : Type)
  | engine (e : σ)
  | clearFakePlayer (slot : Slot)
  | setFakePlayer (slot : Slot)
  | writeSteamId (slot : Slot) (steamId : UInt64)
  | setControllerFakeClientFlag (slot : Slot) (fakeClient : Bool)
  | restoreClient (slot : Slot)
  | applyManagedDisguise (m : FakeClientManager) (disguised : Bool)
  | restoreManagedClients (m : FakeClientManager)
  | capture (m : FakeClientManager)
  | restore (m : FakeClientManager)
  | applyBotFlagOverride (m : FakeClientManager)
  | restoreBotFlagOverride
  | resetIdleTimers (m : FakeClientManager)

namespace EngineCall

variable {σ τ : Type}

/-- The same call over another kind of engine. -/
def map (f : σ → τ) : EngineCall σ → EngineCall τ
  | .engine e => .engine (f e)
  | .clearFakePlayer slot => .clearFakePlayer slot
  | .setFakePlayer slot => .setFakePlayer slot
  | .writeSteamId slot steamId => .writeSteamId slot steamId
  | .setControllerFakeClientFlag slot fakeClient => .setControllerFakeClientFlag slot fakeClient
  | .restoreClient slot => .restoreClient slot
  | .applyManagedDisguise m disguised => .applyManagedDisguise m disguised
  | .restoreManagedClients m => .restoreManagedClients m
  | .capture m => .capture m
  | .restore m => .restore m
  | .applyBotFlagOverride m => .applyBotFlagOverride m
  | .restoreBotFlagOverride => .restoreBotFlagOverride
  | .resetIdleTimers m => .resetIdleTimers m

/-- The engine as it last was before the plugin wrote to it. -/
def given (e : σ) : EngineCall σ → σ
  | .engine e' => e'
  | _ => e

/-- What the engine leaves is laid out as the plugin expects it. -/
def Laid (b : EngineBinding) : EngineCall EngineMemory → Prop
  | .engine e => e.Laid b
  | _ => True

end EngineCall

/-- The engine, the snapshots of the scopes that are open, the newest first, and
`g_packedPawns`. -/
structure EngineRun (σ : Type) where
  engine : σ
  scopes : List ScopedBotIdentityRestore := []
  packed : List PawnRef := []

/-- The records of an engine: `Engine`, and the pawn handles of its controllers. -/
structure EngineView where
  engine : Engine
  pawnHandles : Option (Nat → UInt32)

/-- The records in the bytes. -/
def EngineMemory.view (b : EngineBinding) (e : EngineMemory) : EngineView :=
  ⟨e.engine b, e.pawnHandles b⟩

namespace EngineRun

/-- The same run with the engine seen otherwise. -/
def map {σ τ : Type} (f : σ → τ) (s : EngineRun σ) : EngineRun τ :=
  { engine := f s.engine, scopes := s.scopes, packed := s.packed }

/-- One call on the bytes. -/
def stepBytes (b : EngineBinding) (s : EngineRun EngineMemory) :
    EngineCall EngineMemory → EngineRun EngineMemory
  | .engine e => { s with engine := e }
  | .clearFakePlayer slot => { s with engine := s.engine.writeClient b slot b.clearFakePlayer }
  | .setFakePlayer slot => { s with engine := s.engine.writeClient b slot b.setFakePlayer }
  | .writeSteamId slot steamId =>
    { s with engine := s.engine.writeClient b slot (b.writeSteamId · steamId) }
  | .setControllerFakeClientFlag slot fakeClient =>
    { s with engine := s.engine.setControllerFakeClientFlag b slot fakeClient }
  | .restoreClient slot => { s with engine := s.engine.restoreClient b slot }
  | .applyManagedDisguise m disguised =>
    { s with engine := s.engine.applyManagedDisguise b m disguised }
  | .restoreManagedClients m => { s with engine := s.engine.restoreManagedClients b m }
  | .capture m =>
    let captured := s.engine.capture b m
    { s with engine := captured.1, scopes := captured.2 :: s.scopes }
  | .restore m =>
    match s.scopes with
    | [] => s
    | snapshots :: scopes => { s with engine := s.engine.restore b m snapshots, scopes := scopes }
  | .applyBotFlagOverride m =>
    let cleared := s.engine.applyBotFlagOverride b m s.packed
    { s with engine := cleared.1, packed := cleared.2 }
  | .restoreBotFlagOverride =>
    { s with engine := s.engine.restoreBotFlagOverride b s.packed, packed := [] }
  | .resetIdleTimers m => { s with engine := s.engine.resetIdleTimers b m }

/-- The records with the engine changed. -/
def setEngine (s : EngineRun EngineView) (e : Engine) : EngineRun EngineView :=
  { s with engine := { s.engine with engine := e } }

/-- A write to the client in a slot, if there is one. -/
def writeClient (s : EngineRun EngineView) (slot : Slot) (f : Client → Client) :
    EngineRun EngineView :=
  match s.engine.engine.resolveClientBySlot slot with
  | none => s
  | some _ => s.setEngine (s.engine.engine.modifyClient slot f)

/-- One call on the records. -/
def stepRecords (s : EngineRun EngineView) : EngineCall EngineView → EngineRun EngineView
  | .engine e => { s with engine := e }
  | .clearFakePlayer slot => s.writeClient slot Client.clearFakePlayer
  | .setFakePlayer slot => s.writeClient slot Client.setFakePlayer
  | .writeSteamId slot steamId => s.writeClient slot (Client.writeSteamId steamId)
  | .setControllerFakeClientFlag slot fakeClient =>
    s.setEngine (s.engine.engine.setControllerFakeClientFlag slot fakeClient)
  | .restoreClient slot =>
    match s.engine.engine.resolveClientBySlot slot with
    | none => s
    | some _ => s.setEngine (restoreClient s.engine.engine slot)
  | .applyManagedDisguise m disguised =>
    s.setEngine (applyManagedDisguise m disguised s.engine.engine)
  | .restoreManagedClients m => s.setEngine (restoreManagedClients m s.engine.engine)
  | .capture m =>
    let captured := capture m s.engine.engine
    { s.setEngine captured.1 with scopes := captured.2 :: s.scopes }
  | .restore m =>
    match s.scopes with
    | [] => s
    | snapshots :: scopes =>
      { s.setEngine (restore m snapshots s.engine.engine) with scopes := scopes }
  | .applyBotFlagOverride m =>
    let cleared := applyBotFlagOverride m s.engine.pawnHandles s.engine.engine s.packed
    { s.setEngine cleared.1 with packed := cleared.2 }
  | .restoreBotFlagOverride =>
    { s.setEngine (restoreBotFlagOverride s.engine.engine s.packed) with packed := [] }
  -- the idle timers are no part of the records
  | .resetIdleTimers _ => s

variable {b : EngineBinding}

open EngineMemory

/-! ## One call -/

/-- A simulated write, as the records see it. -/
theorem view_simulated {e e' : EngineMemory} {r : Engine} (h : Simulated b e e' r) :
    e'.view b = { e.view b with engine := r } := by
  unfold EngineMemory.view
  rw [h.engine, pawnHandles_kept h.kept]

/-- The run after a simulated write, with the scopes and the pawns it leaves. -/
theorem map_simulated {s : EngineRun EngineMemory} {e' : EngineMemory} {r : Engine}
    (h : Simulated b s.engine e' r) (scopes : List ScopedBotIdentityRestore)
    (packed : List PawnRef) :
    (⟨e', scopes, packed⟩ : EngineRun EngineMemory).map (view b) =
      { (s.map (view b)).setEngine r with scopes := scopes, packed := packed } := by
  unfold map setEngine
  dsimp only
  rw [view_simulated h]

theorem step_writeClient (s : EngineRun EngineMemory) (h : s.engine.Laid b) (slot : Slot)
    {write : Nat → Memory → Memory} {f : Client → Client}
    (hwrite : ∀ c : FixedClient, ClientAt b s.engine slot c →
      Simulated b s.engine (s.engine.withMemory (write c.addr s.engine.memory))
        ((s.engine.engine b).modifyClient slot f)) :
    ({ s with engine := s.engine.writeClient b slot write } : EngineRun EngineMemory).map (view b) =
        (s.map (view b)).writeClient slot f ∧
      Kept b s.engine (s.engine.writeClient b slot write) := by
  unfold EngineMemory.writeClient EngineRun.writeClient client
  rcases client_eq (b := b) (e := s.engine) slot.val with ⟨h0, hnone⟩ | ⟨c, hc, hne⟩
  · rw [if_pos h0]
    refine ⟨?_, .refl h⟩
    have hrec : (s.map (view b)).engine.engine.resolveClientBySlot slot = none := hnone
    rw [hrec]
  · have hrec : (s.map (view b)).engine.engine.resolveClientBySlot slot =
        some (c.withCells (s.engine.value b) slot) := hc.shown
    have hw := hwrite c hc
    rw [hc.pointer, if_neg hne, hrec]
    exact ⟨map_simulated hw s.scopes s.packed, hw.kept⟩

/-- A call on the bytes is the call on the records in them, and writes to cells only. -/
theorem step_view (s : EngineRun EngineMemory) (h : s.engine.Laid b)
    (call : EngineCall EngineMemory) (hcall : call.Laid b) :
    (s.stepBytes b call).map (view b) = (s.map (view b)).stepRecords (call.map (view b)) ∧
      Kept b (call.given s.engine) (s.stepBytes b call).engine := by
  cases call with
  | engine e => exact ⟨rfl, .refl hcall⟩
  | clearFakePlayer slot =>
    exact step_writeClient s h slot fun c hc => simulated_clearFakePlayer h hc
  | setFakePlayer slot =>
    exact step_writeClient s h slot fun c hc => simulated_setFakePlayer h hc
  | writeSteamId slot steamId =>
    exact step_writeClient s h slot fun c hc => simulated_writeSteamId h hc steamId
  | setControllerFakeClientFlag slot fakeClient =>
    have hsim := simulated_setControllerFakeClientFlag h slot.val fakeClient
    exact ⟨map_simulated hsim s.scopes s.packed, hsim.kept⟩
  | restoreClient slot =>
    unfold stepBytes stepRecords EngineCall.map
    dsimp only
    rcases client_eq (b := b) (e := s.engine) slot.val with ⟨h0, hnone⟩ | ⟨c, hc, hne⟩
    · -- no client, so neither side writes
      have hrec : (s.map (view b)).engine.engine.resolveClientBySlot slot = none := hnone
      have hsame : s.engine.restoreClient b slot = s.engine := by
        unfold EngineMemory.restoreClient client
        exact if_pos h0
      rw [hrec, hsame]
      exact ⟨rfl, .refl h⟩
    · have hrec : (s.map (view b)).engine.engine.resolveClientBySlot slot =
          some (c.withCells (s.engine.value b) slot) := hc.shown
      have hsim := simulated_restoreClient h hc hne slot rfl
      rw [hrec]
      exact ⟨map_simulated hsim s.scopes s.packed, hsim.kept⟩
  | applyManagedDisguise m disguised =>
    have hsim := simulated_applyManagedDisguise (m := m) h disguised
    exact ⟨map_simulated hsim s.scopes s.packed, hsim.kept⟩
  | restoreManagedClients m =>
    have hsim := simulated_restoreManagedClients (m := m) h
    exact ⟨map_simulated hsim s.scopes s.packed, hsim.kept⟩
  | capture m =>
    obtain ⟨hsim, hsnap⟩ := simulated_capture (m := m) h
    -- the same snapshots are put on the stack
    refine ⟨(map_simulated hsim _ s.packed).trans ?_, hsim.kept⟩
    rw [hsnap]
    rfl
  | restore m =>
    unfold stepBytes stepRecords EngineCall.map
    cases hs : s.scopes with
    | nil =>
      -- no scope is open
      have hrec : (s.map (view b)).scopes = [] := hs
      dsimp only
      rw [hrec]
      exact ⟨rfl, .refl h⟩
    | cons snapshots scopes =>
      have hrec : (s.map (view b)).scopes = snapshots :: scopes := hs
      have hsim := simulated_restore (m := m) h snapshots
      dsimp only
      rw [hrec]
      exact ⟨map_simulated hsim scopes s.packed, hsim.kept⟩
  | applyBotFlagOverride m =>
    obtain ⟨hsim, hpacked⟩ := simulated_applyBotFlagOverride (m := m) h s.packed
    -- the same pawns are remembered
    refine ⟨(map_simulated hsim s.scopes _).trans ?_, hsim.kept⟩
    rw [hpacked]
    rfl
  | restoreBotFlagOverride =>
    have hsim := simulated_restoreBotFlagOverride h s.packed
    exact ⟨map_simulated hsim s.scopes [], hsim.kept⟩
  | resetIdleTimers m =>
    have hsim := simulated_resetIdleTimers (m := m) h
    exact ⟨map_simulated hsim s.scopes s.packed, hsim.kept⟩

/-! ## Runs -/

theorem run_view (calls : List (EngineCall EngineMemory)) (hcalls : ∀ c ∈ calls, c.Laid b) :
    ∀ (s : EngineRun EngineMemory) (e : EngineMemory), Kept b e s.engine →
      (Runs.exec (stepBytes b) s calls).map (view b) =
          Runs.exec stepRecords (s.map (view b)) (calls.map (EngineCall.map (view b))) ∧
        Kept b (calls.foldl EngineCall.given e) (Runs.exec (stepBytes b) s calls).engine := by
  induction calls with
  | nil => exact fun s e h => ⟨rfl, h⟩
  | cons call calls ih =>
    intro s e h
    obtain ⟨hview, hkept⟩ := step_view s h.laid call (hcalls call List.mem_cons_self)
    -- what the engine last left is that of the call, or stays
    have hlast : Kept b (call.given e) (s.stepBytes b call).engine := by
      cases call with
      | engine e' => exact hkept
      | _ => exact h.trans hkept
    rw [List.map_cons, Runs.exec_cons, Runs.exec_cons, List.foldl_cons, ← hview]
    exact ih (fun c hc => hcalls c (List.mem_cons_of_mem _ hc)) _ _ hlast

/-- **The bytes refine the records.** In every run, whatever the engine does between the
calls, the records in the bytes are those the calls on records make, and only bytes of the
flag words, SteamIDs and idle timers differ from what the engine last left. -/
theorem bytes_refine_records (e : EngineMemory) (calls : List (EngineCall EngineMemory))
    (he : e.Laid b) (hcalls : ∀ c ∈ calls, c.Laid b) :
    (Runs.exec (stepBytes b) ⟨e, [], []⟩ calls).map (view b) =
        Runs.exec stepRecords ⟨e.view b, [], []⟩ (calls.map (EngineCall.map (view b))) ∧
      Kept b (calls.foldl EngineCall.given e)
        (Runs.exec (stepBytes b) ⟨e, [], []⟩ calls).engine :=
  run_view calls hcalls ⟨e, [], []⟩ e (.refl he)

/-! ## A bot in memory -/

/-- A list of one client. -/
theorem fixedClients_one (b : EngineBinding) (m : Memory) {gameServer client : Nat}
    (h0 : gameServer ≠ 0) (hcount : (b.count (gameServer + b.clientListOffset)).run m = 1)
    (hclient : (b.element (gameServer + b.clientListOffset) 0).run m = client) :
    (b.fixedClients gameServer).run m = [(b.fixedClient client).run m] ∧
      (b.fixedClients gameServer).uses m = (b.count (gameServer + b.clientListOffset)).uses m ∪
        ((b.element (gameServer + b.clientListOffset) 0).uses m ∪
          (b.fixedClient client).uses m) := by
  have hone : List.range (Int.toNat 1) = [0] := rfl
  have hin : ¬ ((1 : Int) < 0 ∨ (1 : Int) > 256) := by decide
  unfold EngineBinding.fixedClients
  rw [if_neg h0, Read.run_bind, Read.uses_bind, hcount, if_neg hin, hone, Read.run_forList,
    Read.uses_forList]
  simp only [List.map_cons, List.map_nil, Read.run_bind, Read.uses_bind, hclient,
    List.mem_singleton, Set.iUnion_iUnion_eq_left, and_self]

theorem spanIn_layout (b : EngineBinding) (gameServer entitySystemGlobal : Nat) (m : Memory)
    (cell : EngineCell) : (b.layout gameServer entitySystemGlobal).spanIn m cell =
      b.span ⟨(b.fixedClients gameServer).run m,
        fun j => (b.fixedEntity entitySystemGlobal j).run m⟩ cell := (rfl)

theorem uses_layout (b : EngineBinding) (gameServer entitySystemGlobal : Nat) (m : Memory) :
    (b.layout gameServer entitySystemGlobal).fixed.uses m = (b.fixedClients gameServer).uses m ∪
      ⋃ j, (b.fixedEntity entitySystemGlobal j).uses m := by
  change _ ∪ (_ ∪ ∅) = _
  rw [Set.union_empty]
  rfl

/-- The offsets of the shipped game data, with some for the fields of the Schema; vectors and
entities as the SDK lays them out. -/
def shippedBinding : EngineBinding where
  nameOffset := 64
  entityIndexOffset := 76
  connectionTypeFlagsOffset := 96
  fakePlayerOffset := 160
  userIdOffset := 168
  steamIdOffset := 171
  steamIdMirrorOffset := 179
  isHltvOffset := 322
  clientListOffset := 616
  entitySystemIdentityChunksOffset := 16
  entityIdentitySize := 112
  entityIdentityInstanceOffset := 0
  entityIdentityClassNameOffset := 32
  baseEntityFlagsOffset := 1016
  botPawnHandleOffset := some 2064
  idleTimeOffset := some 3696
  count a := readInt a
  element a i := do
    let elements ← readPointer (a + 8)
    readPointer (elements + 8 * i)
  identityFlags entity := do
    let identity ← readPointer (entity + 16)
    if identity = 0 then pure none else some <$> readWord (identity + 48)
  refEHandle entity := do
    let identity ← readPointer (entity + 16)
    UInt32.ofBitVec <$> readWord (identity + 16)
  deleteFlags := 0x210
  mapped _ := true

theorem safeReadPointer_shipped (a : Nat) : shippedBinding.safeReadPointer a = readPointer a :=
  if_pos rfl

/-- The pointers in a memory with one client, its controller `1` and its pawn `2`. -/
structure OneBot (m : Memory) : Prop where
  count : (readInt 4712).run m = 1
  clients : (readPointer 4720).run m = 8192
  client : (readPointer 8192).run m = 12288
  name : (readPointer 12352).run m = 0
  system : (readPointer 16384).run m = 20480
  chunk : ∀ j < 0x8000, (readPointer (20496 + j / 512 * 8)).run m = if j < 512 then 1048576 else 0
  className : ∀ j, (readPointer (1048576 + j * 112 + 32)).run m = if j = 1 then 28672 else 0
  entity : ∀ j, (readPointer (1048576 + j * 112)).run m =
    if j = 1 then 32768 else if j = 2 then 36864 else 0
  controllerIdentity : (readPointer 32784).run m = 1048688
  pawnIdentity : (readPointer 36880).run m = 1048800

/-- Where the client is read. -/
def clientReads : Set Nat := {a | 4712 ≤ a ∧ a < 4716 ∨ 4720 ≤ a ∧ a < 4728 ∨
  8192 ≤ a ∧ a < 8200 ∨ 12352 ≤ a ∧ a < 12360 ∨ 12364 ≤ a ∧ a < 12368 ∨
  12456 ≤ a ∧ a < 12458 ∨ a = 12610}

/-- Where the entities are read: the entity system, the pointers to its chunks, a class name and
the identities, and in the controller and the pawn. -/
def entityReads : Set Nat := {a | 16384 ≤ a ∧ a < 16392 ∨ 20496 ≤ a ∧ a < 21008 ∨
  28672 ≤ a ∧ a < 28735 ∨ 1048576 ≤ a ∨ 32784 ≤ a ∧ a < 32792 ∨ 34832 ≤ a ∧ a < 34836 ∨
  36880 ≤ a ∧ a < 36888 ∨ 38928 ≤ a ∧ a < 38932}

theorem Ico_subset_clientReads {lo hi : Nat} (h : ∀ a, lo ≤ a → a < hi →
    4712 ≤ a ∧ a < 4716 ∨ 4720 ≤ a ∧ a < 4728 ∨ 8192 ≤ a ∧ a < 8200 ∨ 12352 ≤ a ∧ a < 12360 ∨
      12364 ≤ a ∧ a < 12368 ∨ 12456 ≤ a ∧ a < 12458 ∨ a = 12610) :
    Set.Ico lo hi ⊆ clientReads := fun a ha => h a ha.1 ha.2

theorem Ico_subset_entityReads {lo hi : Nat} (h : ∀ a, lo ≤ a → a < hi →
    16384 ≤ a ∧ a < 16392 ∨ 20496 ≤ a ∧ a < 21008 ∨ 28672 ≤ a ∧ a < 28735 ∨ 1048576 ≤ a ∨
      32784 ≤ a ∧ a < 32792 ∨ 34832 ≤ a ∧ a < 34836 ∨ 36880 ≤ a ∧ a < 36888 ∨
      38928 ≤ a ∧ a < 38932) :
    Set.Ico lo hi ⊆ entityReads := fun a ha => h a ha.1 ha.2

/-- Where the cells lie, as far as there are any. -/
def cellPlace : EngineCell → Set Nat
  | .connectionFlags 0 => Set.Ico 12384 12385
  | .fakePlayer 0 => Set.Ico 12448 12449
  | .steamId 0 => Set.Ico 12459 12467
  | .steamIdMirror 0 => Set.Ico 12467 12475
  | .flags 1 => Set.Ico 33784 33788
  | .idleTime 1 => Set.Ico 36464 36468
  | .flags 2 => Set.Ico 37880 37884
  | .idleTime 2 => Set.Ico 40560 40564
  | _ => ∅

namespace OneBot

variable {m : Memory}

/-- What is read through the identity of an entity. -/
theorem uses_identity {entity identity : Nat} (hid : (readPointer (entity + 16)).run m = identity)
    (hidentity : 1048576 ≤ identity) (hentity : Set.Ico (entity + 16) (entity + 24) ⊆ entityReads) :
    (shippedBinding.refEHandle entity).uses m ⊆ entityReads ∧
      (shippedBinding.isEntityBeingDeleted entity).uses m ⊆ entityReads := by
  have hword : ∀ k, (readWord (identity + k)).uses m ⊆ entityReads := by
    intro k
    unfold readWord
    rw [Read.uses_map, uses_loadLE]
    exact Ico_subset_entityReads fun a _ _ => by omega
  have hpointer : (readPointer (entity + 16)).uses m ⊆ entityReads := by
    rw [uses_readPointer]
    exact hentity
  constructor
  · change (readPointer (entity + 16) >>= fun identity =>
      UInt32.ofBitVec <$> readWord (identity + 16)).uses m ⊆ entityReads
    rw [Read.uses_bind_of hid, Read.uses_map]
    exact Set.union_subset hpointer (hword 16)
  · unfold EngineBinding.isEntityBeingDeleted
    rw [Read.uses_ite]
    split
    · exact Set.empty_subset _
    · have hflags : (shippedBinding.identityFlags entity).uses m ⊆ entityReads := by
        change (readPointer (entity + 16) >>= fun identity =>
          if identity = 0 then pure none else some <$> readWord (identity + 48)).uses m ⊆ _
        rw [Read.uses_bind_of hid, if_neg (by omega), Read.uses_map]
        exact Set.union_subset hpointer (hword 48)
      obtain ⟨flags, hrun⟩ : ∃ flags, (shippedBinding.identityFlags entity).run m = flags :=
        ⟨_, rfl⟩
      rw [Read.uses_bind_of hrun]
      refine Set.union_subset hflags ?_
      cases flags with
      | none => exact Set.empty_subset _
      | some flags => exact Set.empty_subset _

variable (h : OneBot m)

include h

theorem uses_readName : (shippedBinding.readName 12288).uses m = Set.Ico 12352 12360 := by
  have hnull : (readPointer (12288 + shippedBinding.nameOffset)).run m = 0 := h.name
  unfold EngineBinding.readName
  rw [if_neg (by decide), Read.uses_bind_of hnull, if_pos rfl, Read.uses_pure, Set.union_empty,
    uses_readPointer]
  rfl

theorem uses_fixedClient : (shippedBinding.fixedClient 12288).uses m ⊆ clientReads := by
  have hhltv : (shippedBinding.isHltv 12288).uses m = Set.Ico 12610 12611 := by
    unfold EngineBinding.isHltv
    rw [if_neg (by decide), Read.uses_map, uses_readByte]
    rfl
  have huses : (shippedBinding.fixedClient 12288).uses m = Set.Ico 12352 12360 ∪
      (Set.Ico 12364 12368 ∪ (Set.Ico 12456 12458 ∪ Set.Ico 12610 12611)) := by
    unfold EngineBinding.fixedClient
    rw [if_neg (by decide)]
    simp only [Read.uses_bind, Read.uses_pure, Set.union_empty, h.uses_readName, hhltv,
      uses_readInt, uses_readUInt16]
    rfl
  rw [huses]
  refine Set.union_subset ?_ (Set.union_subset ?_ (Set.union_subset ?_ ?_))
  all_goals exact Ico_subset_clientReads fun a _ _ => by omega

/-- The list has the one client. -/
theorem one_client :
    (∃ f : FixedClient, f.addr = 12288 ∧ (shippedBinding.fixedClients 4096).run m = [some f]) ∧
      (shippedBinding.fixedClients 4096).uses m ⊆ clientReads := by
  have hcount : (shippedBinding.count (4096 + shippedBinding.clientListOffset)).run m = 1 :=
    h.count
  have hreads : (shippedBinding.count (4096 + shippedBinding.clientListOffset)).uses m =
      Set.Ico 4712 4716 := uses_readInt 4712 m
  have helement : (shippedBinding.element (4096 + shippedBinding.clientListOffset) 0).run m =
        12288 ∧
      (shippedBinding.element (4096 + shippedBinding.clientListOffset) 0).uses m =
        Set.Ico 4720 4728 ∪ Set.Ico 8192 8200 := by
    change (readPointer 4720 >>= fun p => readPointer (p + 8 * 0)).run _ = _ ∧
      (readPointer 4720 >>= fun p => readPointer (p + 8 * 0)).uses _ = _
    rw [Read.run_bind, Read.uses_bind, h.clients, uses_readPointer, uses_readPointer]
    exact ⟨h.client, rfl⟩
  obtain ⟨hrun, huses⟩ := fixedClients_one shippedBinding m (by decide) hcount helement.1
  refine ⟨⟨_, rfl, hrun.trans (congrArg (· :: []) (run_fixedClient m (by decide)))⟩, ?_⟩
  rw [huses, hreads, helement.2]
  refine Set.union_subset ?_ (Set.union_subset (Set.union_subset ?_ ?_) h.uses_fixedClient)
  all_goals exact Ico_subset_clientReads fun a _ _ => by omega

theorem uses_className (j : Nat) :
    (shippedBinding.safeReadString (1048576 + j * 112 + 32) kClassNameCap).uses m ⊆
      entityReads := by
  unfold EngineBinding.safeReadString
  rw [safeReadPointer_shipped, Read.uses_bind_of (h.className j), uses_readPointer]
  refine Set.union_subset (Ico_subset_entityReads fun a _ _ => by omega) ?_
  by_cases hj : j = 1
  · rw [if_pos hj, if_neg (by decide), Read.uses_bind, Read.uses_pure, Set.union_empty]
    refine (uses_readString ..).trans (Ico_subset_entityReads fun a _ hlt => ?_)
    unfold kClassNameCap at hlt
    omega
  · rw [if_neg hj, if_pos rfl]
    exact Set.empty_subset _

/-- The controller and the pawn are the only entities. -/
theorem found_entity (j : Nat) :
    ((shippedBinding.resolveEntityInstance 16384 j kClassNameCap).run m).1 =
        (if j = 1 then 32768 else if j = 2 then 36864 else 0) ∧
      (shippedBinding.resolveEntityInstance 16384 j kClassNameCap).uses m ⊆ entityReads := by
  unfold EngineBinding.resolveEntityInstance
  by_cases hrange : 16384 = 0 ∨ (j : Int) ≤ 0 ∨ (j : Int) ≥ 0x8000
  · rw [if_pos hrange, if_neg (by omega), if_neg (by omega)]
    exact ⟨rfl, Set.empty_subset _⟩
  · have hsystem : (shippedBinding.safeReadPointer 16384).run m = 20480 := by
      rw [safeReadPointer_shipped]
      exact h.system
    have hchunk : (shippedBinding.safeReadPointer (20480 +
        shippedBinding.entitySystemIdentityChunksOffset +
          (j : Int).toNat / kEntListChunkSize * 8)).run m = if j < 512 then 1048576 else 0 := by
      rw [safeReadPointer_shipped]
      exact h.chunk j (by omega)
    have hroots : Set.Ico 16384 (16384 + 8) ∪ Set.Ico (20496 + j / 512 * 8)
        (20496 + j / 512 * 8 + 8) ⊆ entityReads :=
      Set.union_subset (Ico_subset_entityReads fun a _ _ => by omega)
        (Ico_subset_entityReads fun a _ _ => by omega)
    rw [if_neg hrange, Read.run_bind_of hsystem, Read.uses_bind_of hsystem, if_neg (by decide),
      Read.run_bind_of hchunk, Read.uses_bind_of hchunk, ← Set.union_assoc]
    simp only [safeReadPointer_shipped, uses_readPointer, Int.toNat_natCast]
    by_cases hfirst : j < 512
    · -- in the first chunk the place is that of the index
      have hplace : j % kEntListChunkSize * shippedBinding.entityIdentitySize = j * 112 :=
        congrArg (· * 112) (Nat.mod_eq_of_lt hfirst)
      have hinstance : shippedBinding.entityIdentityInstanceOffset = 0 := rfl
      have hclass : shippedBinding.entityIdentityClassNameOffset = 32 := rfl
      simp only [if_pos hfirst, hplace, hinstance, hclass, Nat.add_zero,
        if_neg (show ¬ kClassNameCap = 0 by decide)]
      rw [if_neg (by decide), Read.run_bind, Read.uses_bind, Read.run_bind_of (h.entity j),
        Read.uses_bind_of (h.entity j), Read.run_pure, Read.uses_pure, Set.union_empty,
        uses_readPointer]
      exact ⟨rfl, Set.union_subset hroots (Set.union_subset (h.uses_className j)
        (Ico_subset_entityReads fun a _ _ => by omega))⟩
    · simp only [if_neg hfirst, if_true]
      rw [if_neg (by omega), if_neg (by omega)]
      exact ⟨rfl, Set.union_subset hroots (Set.empty_subset _)⟩

/-- What is read in the controller and the pawn. -/
theorem uses_entity {entity : Nat} (hentity : entity = 32768 ∨ entity = 36864)
    (className : Bytes) :
    (shippedBinding.refEHandle entity).uses m ⊆ entityReads ∧
      (shippedBinding.isEntityBeingDeleted entity).uses m ⊆ entityReads ∧
      (shippedBinding.pawnHandleAt entity className).uses m ⊆ entityReads := by
  have hidentity : Set.Ico (entity + 16) (entity + 24) ⊆ entityReads :=
    Ico_subset_entityReads fun a _ _ => by omega
  have hread : (shippedBinding.pawnHandleAt entity className).uses m ⊆ entityReads := by
    change (if className = kPlayerController then
      UInt32.ofBitVec <$> readWord (entity + 2064) else pure 0).uses m ⊆ entityReads
    rw [Read.uses_ite]
    split
    · unfold readWord
      rw [Read.uses_map, Read.uses_map, uses_loadLE]
      exact Ico_subset_entityReads fun a _ _ => by omega
    · exact Set.empty_subset _
  rcases hentity with rfl | rfl
  · obtain ⟨hhandle, hdeleted⟩ := uses_identity h.controllerIdentity (by omega) hidentity
    exact ⟨hhandle, hdeleted, hread⟩
  · obtain ⟨hhandle, hdeleted⟩ := uses_identity h.pawnIdentity (by omega) hidentity
    exact ⟨hhandle, hdeleted, hread⟩

/-- What is only read of an entity: the controller, the pawn, or none. -/
theorem entity_cases (j : Nat) :
    ((shippedBinding.fixedEntity 16384 j).run m = none ∨
      ∃ k : FixedEntity, (shippedBinding.fixedEntity 16384 j).run m = some k ∧
        (j = 1 ∧ k.addr = 32768 ∨ j = 2 ∧ k.addr = 36864)) ∧
      (shippedBinding.fixedEntity 16384 j).uses m ⊆ entityReads := by
  obtain ⟨hinstance, huses⟩ := h.found_entity j
  obtain ⟨r, hr⟩ : ∃ r, (shippedBinding.resolveEntityInstance 16384 j kClassNameCap).run m = r :=
    ⟨_, rfl⟩
  rw [hr] at hinstance
  refine ⟨?_, ?_⟩
  · rw [run_fixedEntity hr]
    split
    · exact .inl rfl
    · rename_i hfound
      refine .inr ⟨_, rfl, ?_⟩
      dsimp only
      rw [hinstance] at hfound ⊢
      split_ifs at hfound ⊢ <;> simp_all
  · unfold EngineBinding.fixedEntity
    rw [Read.uses_bind_of hr]
    refine Set.union_subset huses ?_
    by_cases h0 : r.1 = 0
    · rw [if_pos h0]
      exact Set.empty_subset _
    · rw [if_neg h0]
      have hentity : r.1 = 32768 ∨ r.1 = 36864 := by
        split_ifs at hinstance
        · exact .inl hinstance
        · exact .inr hinstance
        · exact absurd hinstance h0
      obtain ⟨hhandle, hdeleted, hpawn⟩ := h.uses_entity hentity r.2
      simp only [Read.uses_bind, Read.uses_pure, Set.union_empty]
      exact Set.union_subset hhandle (Set.union_subset hdeleted hpawn)

/-- Where the cells lie. -/
theorem span_subset {cell : EngineCell} {s : Nat × Nat}
    (hs : (shippedBinding.layout 4096 16384).spanIn m cell = some s) :
    Set.Ico s.1 (s.1 + s.2) ⊆ cellPlace cell := by
  obtain ⟨⟨f, hf, hclients⟩, -⟩ := h.one_client
  -- the one client is the first of the list, and the entities are those at `1` and `2`
  have hclient : ∀ (i offset n : Nat), (((shippedBinding.fixedClients 4096).run m)[i]?.join.map
      fun c => (c.addr + offset, n)) = some s → i = 0 ∧ s = (12288 + offset, n) := by
    intro i offset n hspan
    rw [hclients] at hspan
    cases i with
    | zero =>
      refine ⟨rfl, ?_⟩
      rw [← hf]
      exact (Option.some.inj hspan).symm
    | succ i => cases hspan
  have hentity : ∀ (j offset n : Nat), (((shippedBinding.fixedEntity 16384 j).run m).map
      fun k => (k.addr + offset, n)) = some s →
        j = 1 ∧ s = (32768 + offset, n) ∨ j = 2 ∧ s = (36864 + offset, n) := by
    intro j offset n hspan
    obtain ⟨k, hk, rfl⟩ := Option.map_eq_some_iff.mp hspan
    rcases (h.entity_cases j).1 with hnone | ⟨k', hk', hplace⟩
    · rw [hnone] at hk
      cases hk
    · obtain rfl := Option.some.inj (hk.symm.trans hk')
      exact hplace.imp (fun hj => ⟨hj.1, by rw [hj.2]⟩) fun hj => ⟨hj.1, by rw [hj.2]⟩
  rw [spanIn_layout] at hs
  unfold EngineBinding.span at hs
  cases cell with
  | connectionFlags i =>
    obtain ⟨rfl, rfl⟩ := hclient i 96 1 hs
    exact subset_rfl
  | fakePlayer i =>
    obtain ⟨rfl, rfl⟩ := hclient i 160 1 hs
    exact subset_rfl
  | steamId i =>
    obtain ⟨rfl, rfl⟩ := hclient i 171 8 hs
    exact subset_rfl
  | steamIdMirror i =>
    obtain ⟨rfl, rfl⟩ := hclient i 179 8 hs
    exact subset_rfl
  | flags j =>
    rcases hentity j 1016 4 hs with ⟨rfl, rfl⟩ | ⟨rfl, rfl⟩
    · exact subset_rfl
    · exact subset_rfl
  | idleTime j =>
    dsimp only at hs
    split at hs
    · obtain ⟨k, hk, hspan⟩ := Option.bind_eq_some_iff.mp hs
      rcases hentity j 3696 4 (Option.map_eq_some_iff.mpr ⟨k, hk, Option.some.inj hspan⟩) with
        ⟨rfl, rfl⟩ | ⟨rfl, rfl⟩
      · exact subset_rfl
      · exact subset_rfl
    · cases hs

theorem cell_subset (cell : EngineCell) :
    (shippedBinding.layout 4096 16384).cell m cell ⊆ cellPlace cell := by
  unfold Layout.cell
  split
  · exact Set.empty_subset _
  · rename_i s hs
    exact h.span_subset hs

/-- The cells lie apart from what is read, and from each other. -/
theorem laid : (shippedBinding.layout 4096 16384).Laid m where
  fixed cell a ha hc := by
    have hreads : a ∈ clientReads ∨ a ∈ entityReads := by
      rw [uses_layout] at ha
      refine ha.imp (fun ha => h.one_client.2 ha) fun ha => ?_
      obtain ⟨j, hj⟩ := Set.mem_iUnion.mp ha
      exact (h.entity_cases j).2 hj
    have hplace := h.cell_subset cell hc
    simp only [clientReads, entityReads, Set.mem_ofPred_eq] at hreads
    unfold cellPlace at hplace
    split at hplace
    all_goals simp only [Set.mem_Ico, Set.mem_empty_iff_false] at hplace
    all_goals omega
  cells cell cell' hne a ha hc := by
    have hplace := h.cell_subset cell ha
    have hplace' := h.cell_subset cell' hc
    unfold cellPlace at hplace hplace'
    split at hplace <;> split at hplace'
    all_goals simp_all only [Set.mem_Ico, Set.mem_empty_iff_false, ne_eq, not_true]
    all_goals omega

end OneBot

/-- The bytes that are not zero. The pawn's flag word has `FL_BOT`, and its idle timer runs. -/
def oneBotBytes : List (Nat × UInt8) :=
  [ -- the client list, and the client's entity index
    (4712, 1), (4721, 0x20), (8193, 0x30), (12364, 1),
    -- the entity system and its first chunk
    (16385, 0x50), (20498, 0x10),
    -- instance, handle and class name of the controller's identity and of the pawn's
    (1048689, 0x80), (1048704, 1), (1048705, 0x80), (1048721, 0x70),
    (1048801, 0x90), (1048816, 2), (1048817, 0x80),
    -- the controller: its identity and its pawn's handle
    (32784, 0x70), (32786, 0x10), (34832, 2), (34833, 0x80),
    -- the pawn: its identity, flag word and idle timer
    (36880, 0xE0), (36882, 0x10), (37880, 0x10), (40563, 0x3F)] ++
  kPlayerController.mapIdx fun i c => (28672 + i, c)

/-- A bot in slot `0`, with a controller and a pawn. -/
def oneBot : EngineMemory where
  memory a := (oneBotBytes.lookup a).getD 0
  gameServer := 4096
  entitySystemGlobal := 16384
  utilRemove := false
  players _ := none

/-- A pointer where all bytes are zero. -/
theorem readPointer_oneBot {a : Nat} (h : ∀ p ∈ oneBotBytes, p.1 < a ∨ a + 8 ≤ p.1) :
    (readPointer a).run oneBot.memory = 0 := by
  refine run_loadLE_zero fun x ⟨hle, hlt⟩ => ?_
  have hnone : oneBotBytes.lookup x = none := by
    refine List.lookup_eq_none_iff.mpr fun p hp => ?_
    have hapart := h p hp
    have hne : x ≠ p.1 := by omega
    exact bne_iff_ne.mpr hne
  exact congrArg (·.getD 0) hnone

theorem identities_oneBot :
    ∀ p ∈ oneBotBytes, p.1 < 1048576 ∨ 1048688 ≤ p.1 ∧ p.1 < 1048912 := by
  decide +kernel

theorem oneBot_memory : OneBot oneBot.memory where
  count := by decide +kernel
  clients := by decide +kernel
  client := by decide +kernel
  name := by decide +kernel
  system := by decide +kernel
  controllerIdentity := by decide +kernel
  pawnIdentity := by decide +kernel
  chunk j _ := by
    split
    · rename_i hj
      rw [Nat.div_eq_of_lt hj]
      decide +kernel
    · have hchunks : ∀ p ∈ oneBotBytes, p.1 < 20504 ∨ 21008 ≤ p.1 := by decide +kernel
      exact readPointer_oneBot fun p hp => by have := hchunks p hp; omega
  className j := by
    rcases eq_or_ne j 1 with rfl | hcontroller
    · decide +kernel
    · rcases eq_or_ne j 2 with rfl | hpawn
      · decide +kernel
      · rw [if_neg hcontroller]
        exact readPointer_oneBot fun p hp => by have := identities_oneBot p hp; omega
  entity j := by
    rcases eq_or_ne j 1 with rfl | hcontroller
    · decide +kernel
    · rcases eq_or_ne j 2 with rfl | hpawn
      · decide +kernel
      · rw [if_neg hcontroller, if_neg hpawn]
        exact readPointer_oneBot fun p hp => by have := identities_oneBot p hp; omega

/-- The slot is managed. -/
def oneBotManaged : FakeClientManager :=
  FakeClientManager.adoptSlot { slots := fun _ => FakeClientManager.freshSlot 0 } 0
    { name := none
      steamId64 := 76561197960265729
      crosshairCode := []
      scoreboardFlair := 0
      clanTag := []
      clanGroupId := 0 } 0

/-- The bot is disguised; then a scope is opened, the pawn hidden and its idle timer reset. -/
def oneBotOpened : List (EngineCall EngineMemory) :=
  [.applyManagedDisguise oneBotManaged true, .capture oneBotManaged,
    .applyBotFlagOverride oneBotManaged, .resetIdleTimers oneBotManaged]

/-- The pawn is given back, and the scope closed. -/
def oneBotClosed : List (EngineCall EngineMemory) :=
  oneBotOpened ++ [.restoreBotFlagOverride, .restore oneBotManaged]

/-- The bytes of the bot's connection flags, of its fake-player byte, of `FL_FAKECLIENT` and
`FL_BOT`, and the highest of the idle timer. -/
def oneBotCells (s : EngineRun EngineMemory) : List UInt8 :=
  [12384, 12448, 33785, 37880, 40563].map s.engine.memory

theorem bytes_refine_records_oneBot :
    (Runs.exec (stepBytes shippedBinding) ⟨oneBot, [], []⟩ oneBotClosed).map
        (view shippedBinding) =
      Runs.exec stepRecords ⟨oneBot.view shippedBinding, [], []⟩
        (oneBotClosed.map (EngineCall.map (view shippedBinding))) ∧
    oneBotCells (Runs.exec (stepBytes shippedBinding) ⟨oneBot, [], []⟩ oneBotOpened) =
      [8, 1, 1, 0, 0] ∧
    oneBotCells (Runs.exec (stepBytes shippedBinding) ⟨oneBot, [], []⟩ oneBotClosed) =
      [1, 0, 0, 0x10, 0] := by
  have hcalls : ∀ c ∈ oneBotClosed, c.Laid shippedBinding := by
    intro c hc
    unfold oneBotClosed oneBotOpened at hc
    simp only [List.cons_append, List.nil_append, List.mem_cons, List.not_mem_nil, or_false] at hc
    rcases hc with rfl | rfl | rfl | rfl | rfl | rfl <;> trivial
  exact ⟨(bytes_refine_records oneBot oneBotClosed oneBot_memory.laid hcalls).1,
    by decide +kernel, by decide +kernel⟩

end EngineRun

end BotHider.Model
