import BotHider.Model.Sweeps
import BotHider.Model.System

/-!
# BotHider — what an operation leaves alone

The disguise of a slot depends on a part of the world only (`Face`): who is
managed under which SteamID, the hook frames and the mode, and the clients and
entities. Most events do not touch it (`face_step`); an operation on one slot
touches only that slot's share of it (`Confined`).
-/

namespace BotHider.Model

open World

/-! ## The face of a world -/

/-- Which slots are managed, and their SteamIDs. -/
def FakeClientManager.held (m : FakeClientManager) : Slot → Bool × UInt64 :=
  fun s => (m.isManaged s, m.getSyntheticSid s)

/-- The part of a world the disguise depends on. -/
structure Face where
  held : Slot → Bool × UInt64
  hooks : IdentityHooks
  mode : IdentityMode
  loaded : Bool
  gameServer : Option GameServer
  entitySystem : Bool
  entities : Nat → Option Entity

/-- The face of a world. -/
def World.face (w : World) : Face where
  held := w.manager.held
  hooks := w.hooks
  mode := w.plugin.identityMode
  loaded := w.plugin.loaded
  gameServer := w.engine.gameServer
  entitySystem := w.engine.entitySystem
  entities := w.engine.entities

section Face

variable {w w' : World} (h : w'.face = w.face)

include h

theorem isManaged_of_face (s : Slot) : w'.manager.isManaged s = w.manager.isManaged s :=
  congrArg (fun f : Face => (f.held s).1) h

theorem getSyntheticSid_of_face (s : Slot) :
    w'.manager.getSyntheticSid s = w.manager.getSyntheticSid s :=
  congrArg (fun f : Face => (f.held s).2) h

theorem hooks_of_face : w'.hooks = w.hooks := congrArg Face.hooks h

theorem mode_of_face : w'.plugin.identityMode = w.plugin.identityMode := congrArg Face.mode h

theorem client_of_face (t : Nat) :
    w'.engine.resolveClientBySlot t = w.engine.resolveClientBySlot t := by
  have hg : w'.engine.gameServer = w.engine.gameServer := congrArg Face.gameServer h
  unfold Engine.resolveClientBySlot Engine.clientList
  rw [hg]

theorem resolveController_of_face : w'.engine.resolveController = w.engine.resolveController := by
  have hs : w'.engine.entitySystem = w.engine.entitySystem := congrArg Face.entitySystem h
  have he : w'.engine.entities = w.engine.entities := congrArg Face.entities h
  funext c
  unfold Engine.resolveController Engine.resolveEntityInstance
  rw [hs, he]

theorem controller_of_face (t : Nat) :
    w'.engine.controllerAt t = w.engine.controllerAt t := by
  unfold Engine.controllerAt
  rw [client_of_face h, resolveController_of_face h]

theorem separateControllers_of_face (hsep : w.engine.SeparateControllers) :
    w'.engine.SeparateControllers := by
  intro s t c d hst hc hd hk
  rw [client_of_face h] at hc hd
  rw [resolveController_of_face h] at hk
  exact hsep s t c d hst hc hd hk

end Face

/-- A world without the managed client's state, the players it draws and what the
journal notes of it. -/
def World.native (w : World) : World :=
  { w with
    bridge := {}
    engine := { w.engine with players := fun _ => none }
    journal := { issued := w.journal.issued, dispatched := w.journal.dispatched } }

theorem face_of_native {w w' : World} (h : w'.native = w.native) : w'.face = w.face :=
  (congrArg World.face h : w'.native.face = w.native.face)

/-- A world without the players and what the managed client keeps of them. -/
def World.stage (w : World) : World :=
  { w with
    bridge :=
      { client := w.bridge.client
        clients := w.bridge.clients
        avatarReads := w.bridge.avatarReads }
    engine := { w.engine with players := fun _ => none } }

theorem native_of_stage {w w' : World} (h : w'.stage = w.stage) : w'.native = w.native :=
  (congrArg World.native h : w'.stage.native = w.stage.native)

/-- A slot's record without what the scoreboard shows of it besides the name. -/
def ManagedSlot.plain (s : ManagedSlot) : ManagedSlot :=
  { FakeClientManager.freshSlot 0 with
    avatar := s.avatar
    snapshot := { s.snapshot with ping := 0, scoreboardFlair := 0, crosshair := .zero _ } }

/-- A world without what the scoreboard shows, how the managed client presents it, and the
kicks under way. -/
def World.core (w : World) : World :=
  { w.stage with
    manager := { w.manager with slots := fun slot => (w.manager.slots slot).plain }
    plugin := { w.plugin with useBotInfoName := false }
    draining := []
    journal := { w.journal with dispatched := [] } }

theorem core_of_stage {w w' : World} (h : w'.stage = w.stage) : w'.core = w.core :=
  (congrArg World.core h : w'.stage.core = w.stage.core)

theorem face_of_core {w w' : World} (h : w'.core = w.core) : w'.face = w.face :=
  (congrArg World.face h : w'.core.face = w.core.face)

/-! ## Quiet events -/

theorem held_setSlot (m : FakeClientManager) (slot : Slot) {s : ManagedSlot}
    (hm : s.snapshot.managed = (m.slots slot).snapshot.managed)
    (hsid : s.snapshot.steamId = (m.slots slot).snapshot.steamId) :
    (m.setSlot slot s).held = m.held := by
  funext t
  unfold FakeClientManager.held FakeClientManager.isManaged FakeClientManager.getSyntheticSid
  rcases eq_or_ne t slot with rfl | ht
  · rw [FakeClientManager.setSlot_slots_self, hm, hsid]
  · rw [FakeClientManager.setSlot_slots_of_ne _ ht]

theorem held_publishAvatarState (m : FakeClientManager) (slot : Slot) (applied : Bool)
    (sid : UInt64) : (m.publishAvatarState slot applied sid).held = m.held :=
  held_setSlot m slot rfl rfl

theorem held_setAvatarRequest (m : FakeClientManager) (slot : Slot) (data : Bytes) :
    (m.setAvatarRequest slot data).held = m.held :=
  (held_publishAvatarState _ slot false 0).trans (held_setSlot m slot rfl rfl)

theorem held_withdrawAll (m : FakeClientManager) : (AvatarOverrides.withdrawAll m).held = m.held :=
  Sweep.foldl_invariant (P := fun m' : FakeClientManager => m'.held = m.held) rfl
    fun m' slot _ hm' => (held_publishAvatarState m' slot false 0).trans hm'

theorem held_processSlot (calls : Slot → TableCalls) (now addr : Nat)
    (s : FakeClientManager × AvatarOverrides) (slot : Slot) :
    (AvatarOverrides.processSlot calls now addr s slot).1.held = s.1.held := by
  have hoff := held_publishAvatarState s.1 slot false 0
  unfold AvatarOverrides.processSlot
  dsimp only
  split
  · rfl
  · split
    · exact hoff
    · unfold AvatarOverrides.applyRequest
      dsimp only
      split
      · exact hoff
      · split
        · exact hoff
        · split
          · exact hoff
          · exact (held_publishAvatarState _ slot true _).trans hoff

theorem held_processOverrides (a : AvatarOverrides) (m : FakeClientManager) (found : Option Nat)
    (calls : Slot → TableCalls) (now : Nat) :
    (a.processOverrides m found calls now).1.held = m.held := by
  unfold AvatarOverrides.processOverrides
  split
  · rfl
  · split
    · rfl
    · rename_i addr
      have hnote : (a.noteTable m addr).1.held = m.held := by
        unfold AvatarOverrides.noteTable
        split
        · rfl
        · exact held_withdrawAll m
      refine (Sweep.foldl_invariant
        (P := fun s : FakeClientManager × AvatarOverrides => s.1.held = m.held) hnote ?_)
      exact fun s slot _ hs => (held_processSlot calls now addr s slot).trans hs

/-- A change of the manager alone that keeps who is managed under what. -/
theorem face_withManager (w : World) {m : FakeClientManager} (h : m.held = w.manager.held) :
    (w.withManager m).face = w.face := by
  unfold World.face withManager
  rw [h]

theorem face_processOverrides (w : World) (env : PassEnv) :
    (w.processOverrides env).face = w.face := by
  unfold World.face World.processOverrides
  dsimp only
  rw [held_processOverrides]

theorem face_resetRuntime (w : World) : w.resetRuntime.face = w.face := by
  unfold World.face World.resetRuntime AvatarOverrides.resetRuntime
  dsimp only
  rw [held_withdrawAll]

/-- Attaching the change-level hook writes where the hook is, and nothing else. -/
theorem attachGameServerHook_fst (w : World) (added : Bool) :
    ∃ server hook, (w.attachGameServerHook added).1 =
      { w with plugin :=
          { w.plugin with hookedGameServer := server, startChangeLevelHook := hook } } := by
  unfold attachGameServerHook
  dsimp only
  split
  · exact ⟨_, _, rfl⟩
  · split
    · exact ⟨_, _, rfl⟩
    · split
      · exact ⟨_, _, rfl⟩
      · exact ⟨_, _, rfl⟩

theorem face_attachGameServerHook (w : World) (added : Bool) :
    (w.attachGameServerHook added).1.face = w.face := by
  obtain ⟨server, hook, h⟩ := attachGameServerHook_fst w added
  rw [h]
  rfl

theorem face_drainBegin (w : World) (botKick : Bool) : (w.drainBegin botKick).face = w.face := by
  unfold drainBegin
  split <;> rfl

theorem face_bhAttach (w : World) : w.bhAttach.1.face = w.face := by
  unfold bhAttach FakeClientManager.attach
  dsimp only
  split <;> rfl

theorem face_bhDetach (w : World) : w.bhDetach.face = w.face := by
  unfold bhDetach
  split <;> rfl

theorem face_bhSetAvatar (w : World) (slot : Int) (incarnation : UInt64) (data : Option Bytes)
    (length : Int) (alloc : Bool) :
    (w.bhSetAvatar slot incarnation data length alloc).1.face = w.face := by
  unfold bhSetAvatar
  split
  · rfl
  · split
    · rfl
    · dsimp only
      split
      · rfl
      · exact face_withManager w (held_setAvatarRequest _ _ _)

/-! ## The managed client's own work -/

theorem face_loadImpl (w : World) (found : Bool) : (w.loadImpl found).face = w.face := by
  unfold loadImpl
  dsimp only
  split
  · rfl
  · exact face_bhAttach w

theorem stage_resetAppliedState (w : World) : w.resetAppliedState.stage = w.stage :=
  Sweep.foldl_invariant (P := fun w' : World => w'.stage = w.stage) rfl fun _ _ _ h => h

theorem face_unloadImpl (w : World) : w.unloadImpl.face = w.face := by
  unfold unloadImpl
  dsimp only
  split
  · exact face_of_core (core_of_stage (stage_resetAppliedState w))
  · exact (face_bhDetach _).trans (face_of_core (core_of_stage (stage_resetAppliedState w)))

theorem stage_writeVisibleName (w : World) (slot : Slot) (player : Player) (name : Bytes)
    (fault : Option Nat) : (w.writeVisibleName slot player name fault).stage = w.stage := by
  unfold writeVisibleName
  dsimp only
  split
  · rfl
  · split <;> rfl

theorem stage_writeVisibleSid (w : World) (slot : Slot) (player : Player) (sid : UInt64)
    (fault : Option Nat) : (w.writeVisibleSid slot player sid fault).stage = w.stage := by
  unfold writeVisibleSid
  dsimp only
  split
  · rfl
  · split <;> rfl

theorem stage_writeVisibleCrosshair (w : World) (slot : Slot) (player : Player) (code : Bytes)
    (fault : Option Nat) : (w.writeVisibleCrosshair slot player code fault).1.stage = w.stage := by
  unfold writeVisibleCrosshair
  split <;> rfl

theorem stage_tryApplyScoreboardFlair (w : World) (slot : Slot) (player : Player)
    (itemDefIndex : UInt32) (fault : Option Nat) :
    (w.tryApplyScoreboardFlair slot player itemDefIndex fault).1.stage = w.stage := by
  unfold tryApplyScoreboardFlair
  split
  · rfl
  · split
    · rfl
    · dsimp only
      split
      · rfl
      · split
        · split <;> rfl
        · rfl

theorem stage_writeVisible (w : World) (slot : Slot) (player : Player) (snapshot : SlotSnapshot)
    (fault : Option Nat) (field : VisibleField) :
    (w.writeVisible slot player snapshot fault field).stage = w.stage := by
  unfold writeVisible
  split
  · exact stage_writeVisibleName ..
  · split
    · exact stage_writeVisibleSid ..
    · rfl
  · dsimp only
    split
    · exact stage_writeVisibleCrosshair ..
    · exact stage_writeVisibleCrosshair ..
  · dsimp only
    split
    · exact stage_tryApplyScoreboardFlair ..
    · exact stage_tryApplyScoreboardFlair ..

theorem stage_runVisibleWrite (w : World) (write : VisibleWrite) (fault : Option Nat) :
    (w.runVisibleWrite write fault).stage = w.stage := by
  unfold runVisibleWrite
  split
  · rfl
  · split
    · rfl
    · split
      · rfl
      · rename_i snapshot _ _
        generalize hw' : (if w.bridge.observedIncarnations write.slot ≠ write.incarnation then
          w.resetAppliedSlot write.slot write.incarnation else w) = w'
        have hreset : w'.stage = w.stage := by
          rw [← hw']
          split <;> rfl
        dsimp only
        split
        · exact hreset
        · exact (stage_writeVisible ..).trans hreset

theorem stage_runNextFrame (w : World) (fault : Option Nat) :
    (w.runNextFrame fault).stage = w.stage := by
  unfold runNextFrame
  split
  · rfl
  · exact stage_runVisibleWrite _ _ fault

theorem stage_applyManagedSlot (w : World) (slot : Slot) (faults : SlotFaults) :
    (w.applyManagedSlot slot faults).stage = w.stage := by
  have hname : ∀ (w : World) s, (w.reconcileName slot s faults.name).stage = w.stage := by
    intro w s
    unfold reconcileName
    split
    · rfl
    · split
      · exact stage_writeVisibleName ..
      · rfl
  have hsid : ∀ (w : World) s, (w.reconcileSid slot s faults.steamId).stage = w.stage := by
    intro w s
    unfold reconcileSid
    split
    · rfl
    · exact stage_writeVisible ..
  have hcross : ∀ (w : World) s, (w.reconcileCrosshair slot s faults.crosshair).stage = w.stage := by
    intro w s
    unfold reconcileCrosshair
    split
    · rfl
    · dsimp only
      split
      · exact stage_writeVisible ..
      · rfl
  have hflair : ∀ (w : World) s,
      (w.reconcileFlair slot s faults.scoreboardFlair).stage = w.stage := by
    intro w s
    unfold reconcileFlair
    split
    · rfl
    · dsimp only
      split
      · exact stage_writeVisible ..
      · rfl
  unfold applyManagedSlot
  split
  · rfl
  · split
    · rfl
    · rename_i snapshot _
      split
      · rfl
      · have hreset : ∀ c : Prop, [Decidable c] →
            (if c then w.resetAppliedSlot slot snapshot.incarnation else w).stage = w.stage := by
          intro c _
          split <;> rfl
        dsimp only
        split
        · exact hreset _
        · rw [hflair, hcross, hsid, hname]
          exact hreset _

theorem stage_queueVisibleWrite (w : World) (slot : Int) (incarnation : UInt64)
    (field : VisibleField) : (w.queueVisibleWrite slot incarnation field).stage = w.stage := by
  unfold queueVisibleWrite
  split
  · split <;> rfl
  · rfl

theorem native_queueVisibleWrite (w : World) (slot : Int) (incarnation : UInt64)
    (field : VisibleField) : (w.queueVisibleWrite slot incarnation field).native = w.native :=
  native_of_stage (stage_queueVisibleWrite ..)

/-! ## What only shows -/

theorem core_withSlots (w : World) {slots : Slot → ManagedSlot}
    (h : ∀ slot, (slots slot).plain = (w.manager.slots slot).plain) :
    (w.withManager { w.manager with slots := slots }).core = w.core := by
  unfold World.core withManager
  dsimp only
  rw [funext h]
  rfl

theorem core_modifySnapshot (w : World) (slot : Slot) {f : SlotSnapshot → SlotSnapshot}
    (h : ∀ s : ManagedSlot, ({ s with snapshot := f s.snapshot } : ManagedSlot).plain = s.plain) :
    (w.withManager (w.manager.modifySnapshot slot f)).core = w.core := by
  refine core_withSlots w fun t => ?_
  rcases eq_or_ne t slot with rfl | ht
  · rw [Function.update_self]
    exact h _
  · rw [Function.update_of_ne ht]

theorem core_onTick (w : World) : (w.withManager w.manager.onTick).core = w.core := by
  refine core_withSlots w fun t => ?_
  unfold FakeClientManager.tickedSlot
  split
  · rfl
  · dsimp only
    split <;> rfl

theorem core_drainKick (w : World) (fits : Bool) : (w.drainKick fits).core = w.core := by
  unfold drainKick
  split
  · rfl
  · dsimp only
    split <;> rfl

theorem core_bhSetCrosshair (w : World) (slot : Int) (incarnation : UInt64)
    (code : Option Bytes) (length : Int) :
    (w.bhSetCrosshair slot incarnation code length).1.core = w.core := by
  unfold bhSetCrosshair
  split
  · rfl
  · split
    · rfl
    · exact core_modifySnapshot w _ fun _ => rfl

theorem core_bhSetFlair (w : World) (slot : Int) (incarnation : UInt64) (flair : UInt32) :
    (w.bhSetFlair slot incarnation flair).1.core = w.core := by
  unfold bhSetFlair
  split
  · rfl
  · split
    · rfl
    · exact core_modifySnapshot w _ fun _ => rfl

theorem core_bhSetNameSource (w : World) (useBotInfo : Int) :
    (w.bhSetNameSource useBotInfo).1.core = w.core := by
  unfold bhSetNameSource
  split <;> rfl

theorem core_setCrosshairText (w : World) (slot : Int) (incarnation : UInt64) (code : Bytes) :
    (w.setCrosshairText slot incarnation code).1.core = w.core := by
  unfold setCrosshairText
  dsimp only
  split
  · exact core_bhSetCrosshair ..
  · exact (core_of_stage (stage_queueVisibleWrite ..)).trans (core_bhSetCrosshair ..)

theorem core_setCrosshairCode (w : World) (slot : Int) (code : Option Bytes) :
    (w.setCrosshairCode slot code).1.core = w.core := by
  unfold setCrosshairCode
  split
  · exact core_setCrosshairText ..
  · rfl

theorem core_setScoreboardFlair (w : World) (slot : Int) (itemDefIndex : UInt32) :
    (w.setScoreboardFlair slot itemDefIndex).1.core = w.core := by
  unfold setScoreboardFlair
  split
  · rfl
  · dsimp only
    split
    · exact core_bhSetFlair ..
    · exact (core_of_stage (stage_queueVisibleWrite ..)).trans (core_bhSetFlair ..)

/-- The events that only change what the scoreboard shows, or take a kick off the list. -/
def Event.cosmetic : Event → Bool
  | .drainKick _ | .tick | .bhSetCrosshair .. | .bhSetFlair .. | .bhSetNameSource _
  | .resetAppliedState | .resetAppliedSlot _ | .applyManagedSlot .. | .runNextFrame _
  | .setCrosshairCode .. | .setScoreboardFlair .. => true
  | _ => false

/-- **Cosmetic events.** They keep the core of the world. -/
theorem core_step (w : World) {e : Event} (h : e.cosmetic = true) : (w.step e).core = w.core := by
  cases e with
  | drainKick fits => exact core_drainKick w fits
  | tick => exact core_onTick w
  | bhSetCrosshair => exact core_bhSetCrosshair ..
  | bhSetFlair => exact core_bhSetFlair ..
  | bhSetNameSource => exact core_bhSetNameSource ..
  | resetAppliedState => exact core_of_stage (stage_resetAppliedState w)
  | resetAppliedSlot => rfl
  | applyManagedSlot => exact core_of_stage (stage_applyManagedSlot ..)
  | runNextFrame fault => exact core_of_stage (stage_runNextFrame w fault)
  | setCrosshairCode => exact core_setCrosshairCode ..
  | setScoreboardFlair => exact core_setScoreboardFlair ..
  | _ => cases h

/-! ## Avatar commands of the managed client -/

/-- What the managed client keeps is nothing to `BH_SetAvatar`. -/
theorem native_bhSetAvatar_withBridge (w : World) (bridge : BridgeClient) (slot : Int)
    (incarnation : UInt64) (data : Option Bytes) (length : Int) (alloc : Bool) :
    ((w.withBridge bridge).bhSetAvatar slot incarnation data length alloc).1.native =
      (w.bhSetAvatar slot incarnation data length alloc).1.native := by
  have htarget : (w.withBridge bridge).target slot incarnation = w.target slot incarnation := rfl
  unfold bhSetAvatar
  rw [htarget]
  split
  · rfl
  · split
    · rfl
    · dsimp only
      split <;> rfl

/-- What `TrySetBotAvatar` does to the native side is a `BH_SetAvatar` without bytes, or
nothing. -/
theorem native_trySetBotAvatar (w : World) (slot : Int) (pngPath : AvatarPath) :
    (∃ (index : Slot) (incarnation : UInt64), (w.trySetBotAvatar slot pngPath).1.native =
      (w.bhSetAvatar index.val incarnation none 0 true).1.native) ∨
    (w.trySetBotAvatar slot pngPath).1.native = w.native := by
  have hclear : ∀ (index : Slot) incarnation, (w.clearBotAvatar index incarnation).1.native =
      (w.bhSetAvatar index.val incarnation none 0 true).1.native := by
    intro index incarnation
    unfold clearBotAvatar
    dsimp only
    split
    · exact native_bhSetAvatar_withBridge ..
    · exact native_bhSetAvatar_withBridge ..
  unfold trySetBotAvatar
  split
  · split
    · exact Or.inr rfl
    · split
      · exact Or.inl ⟨_, _, hclear _ _⟩
      · split
        · exact Or.inr rfl
        · split
          · exact Or.inr rfl
          · exact Or.inr rfl
  · exact Or.inr rfl

/-- What finishing a read does to the native side is a `BH_SetAvatar` with the bytes read, or
nothing. -/
theorem native_finishAvatarRead (w : World) (alloc : Bool) (slot : Slot) :
    (∃ (incarnation : UInt64) (bytes : Bytes), (w.finishAvatarRead alloc slot).native =
      (w.bhSetAvatar slot.val incarnation (some bytes) bytes.length alloc).1.native) ∨
    (w.finishAvatarRead alloc slot).native = w.native := by
  unfold finishAvatarRead
  dsimp only
  split
  · exact Or.inr rfl
  · split
    · exact Or.inr rfl
    · split
      · exact Or.inr rfl
      · split
        · exact Or.inr rfl
        · exact Or.inl ⟨_, _, native_bhSetAvatar_withBridge ..⟩

theorem face_trySetBotAvatar (w : World) (slot : Int) (pngPath : AvatarPath) :
    (w.trySetBotAvatar slot pngPath).1.face = w.face := by
  rcases native_trySetBotAvatar w slot pngPath with ⟨_, _, h⟩ | h
  · exact (face_of_native h).trans (face_bhSetAvatar ..)
  · exact face_of_native h

theorem native_completeAvatarRead (w : World) (slot : Slot) (file : Option Bytes) :
    (w.completeAvatarRead slot file).native = w.native := by
  unfold completeAvatarRead
  dsimp only
  split
  · rfl
  · split <;> rfl

theorem face_finishAvatarRead (w : World) (alloc : Bool) (slot : Slot) :
    (w.finishAvatarRead alloc slot).face = w.face := by
  rcases native_finishAvatarRead w alloc slot with ⟨_, _, h⟩ | h
  · exact (face_of_native h).trans (face_bhSetAvatar ..)
  · exact face_of_native h

theorem face_finishAvatarReads (w : World) (alloc : Slot → Bool) :
    (w.finishAvatarReads alloc).face = w.face :=
  Sweep.foldl_invariant (P := fun w' : World => w'.face = w.face) rfl
    fun w' slot _ h => (face_finishAvatarRead w' (alloc slot) slot).trans h

/-- The events that leave the face of the world alone. -/
def Event.quiet : Event → Bool
  | .tables _ | .drainBegin _ | .drainKick _ | .tick | .processOverrides _ | .bhAttach
  | .bhDetach | .bhSetCrosshair .. | .bhSetFlair .. | .bhSetAvatar .. | .bhSetNameSource _
  | .loadImpl _ | .unloadImpl | .resetAppliedState | .resetAppliedSlot _ | .applyManagedSlot ..
  | .runNextFrame _ | .setCrosshairCode .. | .setScoreboardFlair .. | .trySetBotAvatar ..
  | .completeAvatarRead .. | .finishAvatarReads _ => true
  | _ => false

/-- **Quiet events.** They keep who is managed, the frames, the mode, the clients and
the entities. -/
theorem face_step (w : World) {e : Event} (h : e.quiet = true) : (w.step e).face = w.face := by
  cases e with
  | tables => rfl
  | drainBegin botKick => exact face_drainBegin w botKick
  | processOverrides env => exact face_processOverrides w env
  | bhAttach => exact face_bhAttach w
  | bhDetach => exact face_bhDetach w
  | bhSetAvatar => exact face_bhSetAvatar ..
  | loadImpl found => exact face_loadImpl w found
  | unloadImpl => exact face_unloadImpl w
  | trySetBotAvatar => exact face_trySetBotAvatar ..
  | completeAvatarRead => exact face_of_native (native_completeAvatarRead ..)
  | finishAvatarReads alloc => exact face_finishAvatarReads w alloc
  | _ => first | exact face_of_core (core_step w rfl) | cases h

/-! ## Hooks and queues -/

/-- A world without what the hooks and the queues change: the engine's memory, the
frames and the pending work. -/
def World.shell (w : World) : World :=
  { w with
    engine := Engine.empty
    hooks := {}
    draining := []
    identity :=
      { w.identity with
        pendingControllerRemovals := []
        pendingBotKicks := [] } }

theorem shell_destroy (w : World) (snapshot : Option ScopedBotIdentityRestore) :
    (w.destroy snapshot).shell = w.shell := by
  cases snapshot <;> rfl

theorem hooks_destroy (w : World) (snapshot : Option ScopedBotIdentityRestore) :
    (w.destroy snapshot).hooks = w.hooks := by
  cases snapshot <;> rfl

theorem mode_destroy (w : World) (snapshot : Option ScopedBotIdentityRestore) :
    (w.destroy snapshot).plugin.identityMode = w.plugin.identityMode := by
  cases snapshot <;> rfl

theorem shell_beginPopulationTransaction (w : World) (redisguise : Bool) :
    (w.beginPopulationTransaction redisguise).shell = w.shell := by
  unfold beginPopulationTransaction
  split <;> rfl

theorem shell_endPopulationTransaction (w : World) (redisguise : Bool) :
    (w.endPopulationTransaction redisguise).shell = w.shell := by
  unfold endPopulationTransaction
  split
  · rfl
  · dsimp only
    split
    · rfl
    · split
      · exact shell_destroy _ _
      · exact shell_destroy _ _

/-- The first enabled population frame captures. -/
theorem beginPopulationFrame_first {w : World} (hd : w.hooks.populationTransactionDepth = 0)
    (hook : PopulationHook) : w.beginPopulationFrame hook true =
      { w with
        engine := (capture w.manager w.engine).1
        hooks :=
          { w.hooks.push (.population hook true) with
            populationTransactionDepth := 1
            populationTransactionRedisguise := true
            populationIdentity := some (capture w.manager w.engine).2 } } := if_pos hd

/-- One inside it counts. -/
theorem beginPopulationFrame_inner {w : World} (hd : w.hooks.populationTransactionDepth ≠ 0)
    (hook : PopulationHook) : w.beginPopulationFrame hook true =
      { w with
        hooks :=
          { w.hooks.push (.population hook true) with
            populationTransactionDepth := w.hooks.populationTransactionDepth + 1
            populationTransactionRedisguise :=
              w.hooks.populationTransactionRedisguise || true } } := if_neg hd

theorem shell_beginPopulationFrame (w : World) (hook : PopulationHook) (enabled : Bool) :
    (w.beginPopulationFrame hook enabled).shell = w.shell := by
  cases enabled with
  | false => rfl
  | true => exact shell_beginPopulationTransaction _ _

theorem shell_endPopulationFrame (w : World) (hook : PopulationHook) (redisguise : Bool) :
    (w.endPopulationFrame hook redisguise).shell = w.shell := by
  unfold endPopulationFrame
  split
  · dsimp only
    split
    · exact shell_endPopulationTransaction _ _
    · rfl
  · rfl

theorem shell_beginScopedFrame (w : World) (hook : ScopedHook) :
    (w.beginScopedFrame hook).shell = w.shell := by
  unfold beginScopedFrame
  split <;> rfl

theorem shell_endScopedFrame (w : World) (hook : ScopedHook) :
    (w.endScopedFrame hook).shell = w.shell := by
  unfold endScopedFrame
  split
  · exact shell_destroy _ _
  · rfl

theorem shell_queueManagedBotKick (w : World) (slot : Option Slot) (botKick : Bool) :
    (w.queueManagedBotKick slot botKick).1.shell = w.shell := by
  unfold queueManagedBotKick
  split
  · rfl
  · split
    · rfl
    · split
      · rfl
      · split <;> rfl

theorem shell_hookDispatchConCommandPre (w : World) (command : ConCommand) (botKick : Bool) :
    (w.hookDispatchConCommandPre command botKick).1.shell = w.shell := by
  have hsup : ∀ name args, (w.supersede name args botKick).1.shell = w.shell := by
    intro name args
    unfold supersede
    dsimp only
    split
    · exact shell_queueManagedBotKick _ _ _
    · split
      · exact shell_queueManagedBotKick _ _ _
      · rfl
  unfold hookDispatchConCommandPre
  split
  · exact shell_beginPopulationFrame _ _ _
  · split
    · exact shell_beginPopulationFrame _ _ _
    · dsimp only
      split
      · rw [shell_beginPopulationFrame, hsup]
      · exact shell_beginPopulationFrame _ _ _

theorem shell_drainBegin (w : World) (botKick : Bool) :
    (w.drainBegin botKick).shell = w.shell := by
  unfold drainBegin
  split <;> rfl

theorem shell_drainPendingControllerRemovals (w : World) :
    w.drainPendingControllerRemovals.shell = w.shell := by
  unfold drainPendingControllerRemovals
  split
  · rfl
  · refine Sweep.foldl_invariant (P := fun s : World × List PendingControllerRemoval =>
      s.1.shell = w.shell) rfl fun s item _ hs => ?_
    unfold drainControllerRemoval
    dsimp only
    split
    · exact hs
    · split
      · exact hs
      · split
        · exact hs
        · split
          · exact hs
          · split
            · exact hs
            · exact hs

/-- The hooked engine calls and the queues' own rounds. -/
def Event.framed : Event → Bool
  | .engine _ | .quotaPre | .quotaPost | .humanTeamPre | .humanTeamPost | .joinTeamPre _
  | .joinTeamPost | .endMatchPre _ | .endMatchPost | .votersPre | .votersPost | .scriptIsBotPre
  | .scriptIsBotPost | .dispatchPre .. | .dispatchPost | .drainBegin _
  | .drainControllerRemovals => true
  | _ => false

/-- **Framed events.** They change the engine's memory, the frames and the pending work, and
nothing else. -/
theorem shell_step (w : World) {e : Event} (h : e.framed = true) :
    (w.step e).shell = w.shell := by
  cases e with
  | engine => rfl
  | quotaPre => exact shell_beginPopulationFrame ..
  | quotaPost => exact shell_endPopulationFrame ..
  | humanTeamPre => exact shell_beginPopulationFrame ..
  | humanTeamPost => exact shell_endPopulationFrame ..
  | joinTeamPre => exact shell_beginPopulationFrame ..
  | joinTeamPost => exact shell_endPopulationFrame ..
  | endMatchPre => exact shell_beginPopulationFrame ..
  | endMatchPost => exact shell_endPopulationFrame ..
  | votersPre => exact shell_beginScopedFrame ..
  | votersPost => exact shell_endScopedFrame ..
  | scriptIsBotPre => exact shell_beginScopedFrame ..
  | scriptIsBotPost => exact shell_endScopedFrame ..
  | dispatchPre command botKick => exact shell_hookDispatchConCommandPre w command botKick
  | dispatchPost => exact shell_endPopulationFrame ..
  | drainBegin botKick => exact shell_drainBegin w botKick
  | drainControllerRemovals => exact shell_drainPendingControllerRemovals w
  | _ => cases h

/-! ## Changing the mode -/

/-- A world without the plugin's variables and what the hooks and the queues change. -/
def World.hull (w : World) : World := { w.shell with plugin := {} }

theorem hull_attachGameServerHook (w : World) (added : Bool) :
    (w.attachGameServerHook added).1.hull = w.hull := by
  obtain ⟨server, hook, h⟩ := attachGameServerHook_fst w added
  rw [h]
  rfl

theorem hull_commitIdentityMode (w : World) (mode : IdentityMode) :
    (w.commitIdentityMode mode).hull = w.hull := by
  unfold commitIdentityMode
  dsimp only
  split <;> rfl

theorem hull_setIdentityMode (w : World) (gate : ModeGate) (mode : IdentityMode) :
    (w.setIdentityMode gate mode).1.hull = w.hull := by
  have hattach := hull_attachGameServerHook w gate.added
  unfold setIdentityMode
  split
  · exact hull_commitIdentityMode _ _
  · split
    · rfl
    · dsimp only
      split
      · dsimp only
        split
        · exact (hull_commitIdentityMode _ _).trans hattach
        · exact hattach
      · exact (hull_commitIdentityMode _ _).trans hattach

theorem hull_bhSetMode (w : World) (gate : ModeGate) (mode : Int) :
    (w.bhSetMode gate mode).1.hull = w.hull := by
  unfold bhSetMode
  split
  · rfl
  · exact hull_setIdentityMode w gate _

/-- Past the reset of the avatar bookkeeping a level's start only works on the mode. -/
theorem hull_onLevelInit (w : World) (gate : ModeGate) :
    (w.onLevelInit gate).hull = w.resetRuntime.hull := by
  have hreset : (World.resetRuntime
      { w with identity := { w.identity with pendingControllerRemovals := [] } }).hull =
        w.resetRuntime.hull := rfl
  unfold onLevelInit
  dsimp only
  split
  · rw [hull_setIdentityMode, hull_attachGameServerHook, hreset]
  · split
    · rw [hull_setIdentityMode, hull_attachGameServerHook, hreset]
    · rw [hull_attachGameServerHook, hreset]

/-- A call of `SetIdentityMode`, from wherever it is made: it keeps the face of the world,
and then may put a mode on. -/
def World.Moded (w w' : World) : Prop :=
  ∃ v : World, v.face = w.face ∧ (w' = v ∨ ∃ mode, w' = v.commitIdentityMode mode)

/-- What holds of every world with the same face, and is kept by putting a mode on, holds
after such a call. -/
theorem World.Moded.rule {P : World → Prop} {w w' : World} (h : w.Moded w')
    (hface : ∀ v : World, v.face = w.face → P v)
    (hcommit : ∀ (v : World) mode, P v → P (v.commitIdentityMode mode)) : P w' := by
  obtain ⟨v, hv, hw | ⟨mode, hw⟩⟩ := h
  · exact hw ▸ hface v hv
  · exact hw ▸ hcommit v mode (hface v hv)

theorem World.Moded.of_face {v w w' : World} (h : v.Moded w') (hf : v.face = w.face) :
    w.Moded w' := by
  obtain ⟨u, hu, hw⟩ := h
  exact ⟨u, hu.trans hf, hw⟩

theorem moded_setIdentityMode (w : World) (gate : ModeGate) (mode : IdentityMode) :
    w.Moded (w.setIdentityMode gate mode).1 := by
  have hattach := face_attachGameServerHook w gate.added
  unfold setIdentityMode
  split
  · exact ⟨w, rfl, Or.inr ⟨.bot, rfl⟩⟩
  · split
    · exact ⟨w, rfl, Or.inl rfl⟩
    · dsimp only
      split
      · dsimp only
        split
        · exact ⟨_, hattach, Or.inr ⟨.bot, rfl⟩⟩
        · exact ⟨_, hattach, Or.inl rfl⟩
      · exact ⟨_, hattach, Or.inr ⟨.player, rfl⟩⟩

theorem moded_bhSetMode (w : World) (gate : ModeGate) (mode : Int) :
    w.Moded (w.bhSetMode gate mode).1 := by
  unfold bhSetMode
  split
  · exact ⟨w, rfl, Or.inl rfl⟩
  · exact moded_setIdentityMode w gate _

theorem moded_onLevelInit (w : World) (gate : ModeGate) : w.Moded (w.onLevelInit gate) := by
  have hface : ((World.resetRuntime { w with identity :=
      { w.identity with pendingControllerRemovals := [] } }).attachGameServerHook
        gate.added).1.face = w.face :=
    (face_attachGameServerHook _ _).trans (face_resetRuntime _)
  unfold onLevelInit
  dsimp only
  split
  · exact (moded_setIdentityMode _ gate .bot).of_face hface
  · split
    · exact (moded_setIdentityMode _ gate .player).of_face hface
    · exact ⟨_, hface, Or.inl rfl⟩

/-! ## Operations on one slot -/

/-- Only one slot's share of the face may differ. -/
structure Confined (slot : Slot) (w w' : World) : Prop where
  hooks : w'.hooks = w.hooks
  plugin : w'.plugin = w.plugin
  avatar : w'.avatar = w.avatar
  held : ∀ t, t ≠ slot → w'.manager.held t = w.manager.held t
  engine : Engine.Only slot.val w.engine w'.engine

variable {w w' w'' : World} {slot : Slot}

theorem Confined.refl (slot : Slot) (w : World) : Confined slot w w :=
  ⟨rfl, rfl, rfl, fun _ _ => rfl, .refl _ _⟩

theorem Confined.trans (h : Confined slot w w') (h' : Confined slot w' w'') :
    Confined slot w w'' :=
  ⟨h'.hooks.trans h.hooks, h'.plugin.trans h.plugin, h'.avatar.trans h.avatar,
    fun t ht => (h'.held t ht).trans (h.held t ht), h.engine.trans h'.engine⟩

theorem Confined.isManaged (h : Confined slot w w') {t : Slot} (ht : t ≠ slot) :
    w'.manager.isManaged t = w.manager.isManaged t :=
  congrArg Prod.fst (h.held t ht)

theorem Confined.getSyntheticSid (h : Confined slot w w') {t : Slot} (ht : t ≠ slot) :
    w'.manager.getSyntheticSid t = w.manager.getSyntheticSid t :=
  congrArg Prod.snd (h.held t ht)

theorem Confined.client (h : Confined slot w w') {t : Slot} (ht : t ≠ slot) :
    w'.engine.resolveClientBySlot t = w.engine.resolveClientBySlot t :=
  h.engine.client t fun heq => ht (Fin.ext heq)

theorem Confined.controller (h : Confined slot w w') (hsep : w.engine.SeparateControllers)
    {t : Slot} (ht : t ≠ slot) : w'.engine.controllerAt t = w.engine.controllerAt t :=
  h.engine.controller hsep t fun heq => ht (Fin.ext heq)

theorem confined_withEngine (w : World) {e : Engine} (h : Engine.Only slot.val w.engine e) :
    Confined slot w (w.withEngine e) :=
  ⟨rfl, rfl, rfl, fun _ _ => rfl, h⟩

theorem confined_setSlot (w : World) (slot : Slot) (s : ManagedSlot) :
    Confined slot w (w.withManager (w.manager.setSlot slot s)) := by
  refine ⟨rfl, rfl, rfl, fun t ht => ?_, .refl _ _⟩
  simp [withManager, FakeClientManager.held, FakeClientManager.isManaged,
    FakeClientManager.getSyntheticSid, ht]

theorem confined_writeSteamId (w : World) (slot : Slot) (sid : UInt64) :
    Confined slot w (w.writeSteamId slot sid) :=
  confined_withEngine w (Engine.only_modifyClient _ _ (Client.entityIndex_writeSteamId sid))

theorem confined_disguiseClient (w : World) (slot : Slot) (fakeClient : Bool) :
    Confined slot w (w.disguiseClient slot fakeClient) :=
  confined_withEngine w
    ((Engine.only_modifyClient _ _ Client.entityIndex_clearFakePlayer).trans
      (Engine.only_setControllerFakeClientFlag _ _ fakeClient))

theorem confined_restoreSlotClient (w : World) (slot : Slot) :
    Confined slot w (w.restoreSlotClient slot) :=
  confined_withEngine w (only_restoreClient _ _)

theorem only_setEngineName (e : Engine) (call : SetNameCall) (slot : Nat) (name : Bytes) :
    Engine.Only slot e (e.setEngineName call slot name).1 := by
  unfold Engine.setEngineName
  split
  · exact .refl _ _
  · exact Engine.only_modifyClient (u := fun c => { c with name := _ }) _ _ fun _ => rfl

theorem confined_applyClientName (w : World) (call : SetNameCall) (slot : Slot) (name : Bytes) :
    Confined slot w (w.applyClientName call slot name).1 :=
  (confined_withEngine w (only_setEngineName _ call slot.val name)).trans
    (confined_setSlot (w.withEngine _) slot _)

theorem confined_releaseSlot (w : World) (slot : Slot) : Confined slot w (w.releaseSlot slot) := by
  refine ⟨rfl, rfl, rfl, fun t ht => ?_, .refl _ _⟩
  simp [World.releaseSlot, FakeClientManager.releaseSlot, FakeClientManager.held,
    FakeClientManager.isManaged, FakeClientManager.getSyntheticSid, ht]

theorem confined_adoptEntry (w : World) (slot : Slot) (name : Option Bytes) (now : UInt64)
    (pick : Nat) (entry : BotEntry) :
    Confined slot w (w.adoptEntry slot name now pick entry) := by
  have hadopt : ∀ a, Confined slot w (w.adoptSlot slot a now) := by
    refine fun a => ⟨rfl, rfl, rfl, fun t ht => ?_, .refl _ _⟩
    simp [World.adoptSlot, FakeClientManager.adoptSlot, FakeClientManager.held,
      FakeClientManager.isManaged, FakeClientManager.getSyntheticSid, ht]
  have hbind : ∀ w' : World, Confined slot w'
      ((w'.bindSlot slot pick name).writeSteamId slot entry.steamId64) := fun w' =>
    (show Confined slot w' (w'.bindSlot slot pick name) from
      ⟨rfl, rfl, rfl, fun _ _ => rfl, .refl _ _⟩).trans (confined_writeSteamId _ _ _)
  unfold adoptEntry
  dsimp only
  split
  · exact ((hadopt _).trans (hbind _)).trans (confined_disguiseClient _ _ _)
  · exact (hadopt _).trans (hbind _)

theorem confined_adoptClient (w : World) (slot : Slot) (name : Option Bytes) (now : UInt64) :
    Confined slot w (w.adoptClient slot name now).1 := by
  have hpool : ∀ store, Confined slot w { w with botInfo := store } := fun _ =>
    ⟨rfl, rfl, rfl, fun _ _ => rfl, .refl _ _⟩
  unfold adoptClient
  split
  · exact .refl _ _
  · dsimp only
    split
    · exact hpool _
    · exact (hpool _).trans (confined_adoptEntry _ _ _ _ _ _)

theorem confined_hookOnClientConnectedPost (w : World) {slot : Int} {index : Slot}
    (h : slotOf slot = some index) (name networkId : Option Bytes) (fakePlayer : Bool)
    (now : UInt64) :
    Confined index w (w.hookOnClientConnectedPost slot name networkId fakePlayer now) := by
  unfold hookOnClientConnectedPost
  rw [h]
  split
  · exact .refl _ _
  · dsimp only
    split
    · exact .refl _ _
    · split
      · exact .refl _ _
      · split
        · exact .refl _ _
        · exact confined_adoptClient _ _ _ _

theorem confined_adoptExistingBot (w : World) (call : SetNameCall) (now : UInt64) (slot : Slot) :
    Confined slot w (w.adoptExistingBot call now slot) := by
  unfold adoptExistingBot
  split
  · exact .refl _ _
  · split
    · exact .refl _ _
    · split
      · exact .refl _ _
      · dsimp only
        split
        · exact (confined_adoptClient _ _ _ _).trans (confined_applyClientName _ _ _ _)
        · exact confined_adoptClient _ _ _ _

theorem confined_releaseManagedHltvSlot (w : World) (call : SetNameCall) (slot : Slot) :
    Confined slot w (w.releaseManagedHltvSlot call slot).1 := by
  have hclear := confined_writeSteamId w slot 0
  unfold releaseManagedHltvSlot
  split
  · exact .refl _ _
  · split
    · exact .refl _ _
    · dsimp only
      split
      · exact hclear.trans (confined_releaseSlot _ _)
      · exact (hclear.trans (confined_withEngine _ (only_setEngineName _ call _ _))).trans
          (confined_releaseSlot _ _)

theorem confined_reapplyIdentity (w : World) (call : SetNameCall) (slot : Slot)
    (name : Option Bytes) : Confined slot w (w.reapplyIdentity call slot name) := by
  have hdisguised : Confined slot w (if w.isDisguiseEnabled then
      w.disguiseClient slot w.populationTransactionActive else w) := by
    split
    · exact confined_disguiseClient _ _ _
    · exact .refl _ _
  have hname : ∀ (w' : World) (visible : Bytes), Confined slot w'
      (if visible = [] then w' else (w'.applyClientName call slot visible).1) := by
    intro w' visible
    split
    · exact .refl _ _
    · exact confined_applyClientName _ _ _ _
  exact (hdisguised.trans (confined_writeSteamId _ _ _)).trans (hname _ _)

theorem confined_hookClientPutInServerPost (w : World) (call : SetNameCall) {slot : Int}
    {index : Slot} (h : slotOf slot = some index) (name : Option Bytes) :
    Confined index w (w.hookClientPutInServerPost call slot name) := by
  unfold hookClientPutInServerPost
  rw [h]
  dsimp only
  split
  · exact .refl _ _
  · split
    · exact .refl _ _
    · split
      · exact confined_releaseManagedHltvSlot _ _ _
      · split
        · exact (confined_restoreSlotClient _ _).trans (confined_releaseSlot _ _)
        · exact confined_reapplyIdentity _ _ _ _

theorem confined_queueControllerRemovalForClient (w : World) (client : Client) (slot s : Slot) :
    Confined s w (w.queueControllerRemovalForClient client slot) := by
  unfold queueControllerRemovalForClient
  split
  · exact .refl _ _
  · split
    · exact .refl _ _
    · split
      · exact .refl _ _
      · split
        · exact .refl _ _
        · exact ⟨rfl, rfl, rfl, fun _ _ => rfl, .refl _ _⟩

theorem confined_hookClientDisconnectPre (w : World) {slot : Int} {index : Slot}
    (h : slotOf slot = some index) (targeted : Bool) :
    Confined index w (w.hookClientDisconnectPre slot targeted) := by
  unfold hookClientDisconnectPre
  rw [h]
  dsimp only
  split
  · exact .refl _ _
  · refine Confined.trans ?_ (confined_releaseSlot _ index)
    split
    · exact .refl _ _
    · split
      · exact (confined_restoreSlotClient _ _).trans
          (confined_queueControllerRemovalForClient _ _ _ _)
      · exact confined_restoreSlotClient _ _

theorem confined_applySteamIdCommand (w : World) (slot : Slot) (steamId : UInt64) :
    Confined slot w (w.applySteamIdCommand slot steamId).1 := by
  unfold applySteamIdCommand
  split
  · exact .refl _ _
  · split
    · exact .refl _ _
    · dsimp only
      split
      · exact ((confined_disguiseClient _ _ _).trans (confined_writeSteamId _ _ _)).trans
          (confined_setSlot _ _ _)
      · exact (confined_writeSteamId _ _ _).trans (confined_setSlot _ _ _)

theorem confined_bhSetName (w : World) (call : SetNameCall) {slot : Int} {incarnation : UInt64}
    {index : Slot} (h : w.target slot incarnation = some index) (name : Option Bytes)
    (length : Int) : Confined index w (w.bhSetName call slot incarnation name length).1 := by
  unfold bhSetName
  rw [h]
  dsimp only
  split
  · exact .refl _ _
  · split
    · exact .refl _ _
    · unfold applyPersonaNameCommand
      split
      · exact .refl _ _
      · exact confined_applyClientName _ _ _ _

end BotHider.Model
