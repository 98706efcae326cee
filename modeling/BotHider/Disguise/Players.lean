import BotHider.Model.SlotSpecs
import BotHider.Registry.Runs
import BotHider.Removal.Queue

/-!
# BotHider — what reaches the players

The panel's players are written by the managed client only, through `setPlayer`, and there only
for a managed slot (`players_step`). Everything else is a matter of looking.
-/

namespace BotHider.Model

open World Engine

/-! ## The engine -/

section Players

variable (e : Engine) (w : World)

@[simp] theorem players_setControllerFakeClientFlag (slot : Nat) (b : Bool) :
    (e.setControllerFakeClientFlag slot b).players = e.players := by
  unfold setControllerFakeClientFlag
  split
  · rfl
  · split <;> rfl

@[simp] theorem players_restoreClient (slot : Slot) : (restoreClient e slot).players = e.players :=
  players_setControllerFakeClientFlag ..

@[simp] theorem players_setEngineName (call : SetNameCall) (slot : Nat) (name : Bytes) :
    (e.setEngineName call slot name).1.players = e.players := by
  unfold setEngineName
  split <;> rfl

theorem players_applyManagedDisguise (m : FakeClientManager) (disguised : Bool) :
    (applyManagedDisguise m disguised e).players = e.players := by
  refine Sweep.foldl_invariant (P := fun e' : Engine => e'.players = e.players) rfl ?_
  intro e' slot _ h
  unfold applyManagedDisguiseSlot
  split
  · exact h
  · split
    · exact h
    · dsimp only
      split <;> exact (players_setControllerFakeClientFlag _ _ _).trans h

theorem players_restoreManagedClients (m : FakeClientManager) :
    (restoreManagedClients m e).players = e.players := by
  refine Sweep.foldl_invariant (P := fun e' : Engine => e'.players = e.players) rfl ?_
  intro e' slot _ h
  unfold restoreManagedClientSlot
  split
  · exact h
  · split
    · exact h
    · exact (players_restoreClient ..).trans h

theorem players_capture (m : FakeClientManager) : (capture m e).1.players = e.players := by
  refine Sweep.foldl_invariant
    (P := fun s : Engine × ScopedBotIdentityRestore => s.1.players = e.players) rfl ?_
  intro s slot _ h
  unfold captureSlot
  split
  · exact h
  · split
    · exact h
    · dsimp only
      split
      · exact h
      · split <;> exact h

theorem players_restore (m : FakeClientManager) (snapshots : ScopedBotIdentityRestore) :
    (restore m snapshots e).players = e.players := by
  refine Sweep.foldl_invariant (P := fun e' : Engine => e'.players = e.players) rfl ?_
  intro e' slot _ h
  unfold restoreSlot
  dsimp only
  split
  · exact h
  · split
    · exact h
    · split
      · exact h
      · split
        · exact h
        · split <;> exact h

/-! ## Clients -/

theorem players_applyClientName (call : SetNameCall) (slot : Slot) (name : Bytes) :
    (w.applyClientName call slot name).1.engine.players = w.engine.players :=
  players_setEngineName ..

theorem players_adoptClient (slot : Slot) (name : Option Bytes) (now : UInt64) :
    (w.adoptClient slot name now).1.engine.players = w.engine.players := by
  unfold adoptClient
  split
  · rfl
  · dsimp only
    split
    · rfl
    · unfold adoptEntry
      dsimp only
      split
      · exact players_setControllerFakeClientFlag ..
      · rfl

theorem players_adoptExistingBot (call : SetNameCall) (now : UInt64) (slot : Slot) :
    (w.adoptExistingBot call now slot).engine.players = w.engine.players := by
  unfold adoptExistingBot
  split
  · rfl
  · split
    · rfl
    · split
      · rfl
      · dsimp only
        split
        · exact (players_applyClientName ..).trans (players_adoptClient ..)
        · exact players_adoptClient ..

theorem players_releaseManagedHltvSlot (call : SetNameCall) (slot : Slot) :
    (w.releaseManagedHltvSlot call slot).1.engine.players = w.engine.players := by
  unfold releaseManagedHltvSlot
  split
  · rfl
  · split
    · rfl
    · dsimp only
      rw [engine_releaseSlot]
      split
      · rfl
      · exact players_setEngineName ..

theorem players_reapplyIdentity (call : SetNameCall) (slot : Slot) (name : Option Bytes) :
    (w.reapplyIdentity call slot name).engine.players = w.engine.players := by
  have hdisguised : (if w.isDisguiseEnabled then
      w.disguiseClient slot w.populationTransactionActive else w).engine.players =
        w.engine.players := by
    split
    · exact players_setControllerFakeClientFlag ..
    · rfl
  have hname : ∀ (w' : World) (visible : Bytes), (if visible = [] then w' else
      (w'.applyClientName call slot visible).1).engine.players = w'.engine.players := by
    intro w' visible
    split
    · rfl
    · exact players_applyClientName ..
  exact (hname _ _).trans hdisguised

theorem players_hookClientPutInServerPost (call : SetNameCall) (slot : Int)
    (name : Option Bytes) :
    (w.hookClientPutInServerPost call slot name).engine.players = w.engine.players := by
  unfold hookClientPutInServerPost
  split
  · rfl
  · split
    · rfl
    · split
      · rfl
      · dsimp only
        split
        · exact players_releaseManagedHltvSlot ..
        · split
          · exact players_restoreClient ..
          · exact players_reapplyIdentity ..

theorem players_queueControllerRemovalForClient (client : Client) (slot : Slot) :
    (w.queueControllerRemovalForClient client slot).engine.players = w.engine.players := by
  rcases queueControllerRemovalForClient_cases w client slot with h | ⟨_, -, -, h⟩
  · rw [h]
  · rw [h]
    rfl

theorem players_hookClientDisconnectPre (slot : Int) (targeted : Bool) :
    (w.hookClientDisconnectPre slot targeted).engine.players = w.engine.players := by
  unfold hookClientDisconnectPre
  split
  · rfl
  · split
    · rfl
    · dsimp only
      rw [engine_releaseSlot]
      split
      · rfl
      · split
        · exact (players_queueControllerRemovalForClient ..).trans (players_restoreClient ..)
        · exact players_restoreClient ..

theorem players_drainPendingControllerRemovals :
    w.drainPendingControllerRemovals.engine.players = w.engine.players := by
  unfold drainPendingControllerRemovals
  split
  · rfl
  · refine Sweep.foldl_invariant (P := fun s : World × List PendingControllerRemoval =>
      s.1.engine.players = w.engine.players) rfl ?_
    intro s item _ h
    rw [drainControllerRemoval_eq]
    unfold Grace.visit
    rcases removalVisit_cases s.1 item with hv | ⟨_, -, -, -, hv⟩ | ⟨_, -, -, hv⟩
    · rw [hv]
      exact h
    · rw [hv]
      exact h
    · rw [hv]
      exact h

/-! ## Frames and modes -/

theorem players_reapplyDisguise : w.reapplyDisguise.engine.players = w.engine.players :=
  players_applyManagedDisguise ..

theorem players_destroy (snapshot : Option ScopedBotIdentityRestore) :
    (w.destroy snapshot).engine.players = w.engine.players := by
  cases snapshot with
  | none => rfl
  | some snapshots => exact players_restore ..

theorem players_beginPopulationFrame (hook : PopulationHook) (enabled : Bool) :
    (w.beginPopulationFrame hook enabled).engine.players = w.engine.players := by
  unfold beginPopulationFrame
  dsimp only
  split
  · unfold beginPopulationTransaction
    split
    · exact players_capture ..
    · rfl
  · rfl

theorem players_endPopulationTransaction (redisguise : Bool) :
    (w.endPopulationTransaction redisguise).engine.players = w.engine.players := by
  unfold endPopulationTransaction
  dsimp only
  split
  · rfl
  · split
    · rfl
    · split
      · exact (players_reapplyDisguise _).trans (players_destroy ..)
      · exact players_destroy ..

theorem players_endPopulationFrame (hook : PopulationHook) (redisguise : Bool) :
    (w.endPopulationFrame hook redisguise).engine.players = w.engine.players := by
  unfold endPopulationFrame
  split
  · dsimp only
    split
    · exact players_endPopulationTransaction ..
    · rfl
  · rfl

theorem players_beginScopedFrame (hook : ScopedHook) :
    (w.beginScopedFrame hook).engine.players = w.engine.players := by
  unfold beginScopedFrame
  split
  · exact players_capture ..
  · rfl

theorem players_endScopedFrame (hook : ScopedHook) :
    (w.endScopedFrame hook).engine.players = w.engine.players := by
  unfold endScopedFrame
  split
  · exact players_destroy ..
  · rfl

theorem engine_supersede (name : String) (args : List Bytes) (botKick : Bool) :
    (w.supersede name args botKick).1.engine = w.engine := by
  have hqueue : ∀ slot, (w.queueManagedBotKick slot botKick).1.engine = w.engine := by
    intro slot
    unfold queueManagedBotKick
    split
    · rfl
    · split
      · rfl
      · split
        · rfl
        · split <;> rfl
  unfold supersede
  dsimp only
  split
  · exact hqueue _
  · split
    · exact hqueue _
    · rfl

theorem players_hookDispatchConCommandPre (command : ConCommand) (botKick : Bool) :
    (w.hookDispatchConCommandPre command botKick).1.engine.players = w.engine.players := by
  unfold hookDispatchConCommandPre
  split
  · exact players_beginPopulationFrame ..
  · rename_i name _
    have hqueued := congrArg Engine.players (engine_supersede w name command.args botKick)
    split
    · exact players_beginPopulationFrame ..
    · dsimp only
      split
      · exact (players_beginPopulationFrame ..).trans hqueued
      · exact players_beginPopulationFrame ..

theorem players_commitIdentityMode (mode : IdentityMode) :
    (w.commitIdentityMode mode).engine.players = w.engine.players := by
  unfold commitIdentityMode
  dsimp only
  split
  · rfl
  · exact players_reapplyDisguise _

theorem players_setIdentityMode (gate : ModeGate) (mode : IdentityMode) :
    (w.setIdentityMode gate mode).1.engine.players = w.engine.players := by
  have hattach : (w.attachGameServerHook gate.added).1.engine = w.engine := by
    obtain ⟨server, hook, h⟩ := attachGameServerHook_fst w gate.added
    rw [h]
  cases mode with
  | bot => exact players_commitIdentityMode ..
  | player =>
    unfold setIdentityMode
    dsimp only
    split
    · rfl
    · split
      · dsimp only
        split
        · exact (players_commitIdentityMode ..).trans (congrArg Engine.players hattach)
        · exact congrArg Engine.players hattach
      · exact (players_commitIdentityMode ..).trans (congrArg Engine.players hattach)

theorem players_onLevelInit (gate : ModeGate) :
    (w.onLevelInit gate).engine.players = w.engine.players := by
  have hattach : ∀ w' : World, (w'.attachGameServerHook gate.added).1.engine.players =
      w'.engine.players := by
    intro w'
    obtain ⟨server, hook, h⟩ := attachGameServerHook_fst w' gate.added
    rw [h]
  unfold onLevelInit
  dsimp only
  split
  · exact (players_setIdentityMode ..).trans (hattach _)
  · split
    · exact (players_setIdentityMode ..).trans (hattach _)
    · exact hattach _

theorem engine_onLevelShutdown (env : PassEnv) : (w.onLevelShutdown env).engine = w.engine := by
  have hprocess : ∀ w' : World, (w'.processOverrides env).engine = w'.engine := fun _ => rfl
  have hreset : ∀ w' : World, w'.resetRuntime.engine = w'.engine := fun _ => rfl
  have hrelease : w.releaseAll.engine = w.engine := rfl
  unfold onLevelShutdown
  dsimp only
  rw [hreset, hprocess, hrelease]

/-! ## Calls -/

theorem players_bhSetSteamId (slot : Int) (incarnation steamId : UInt64) (alloc : Bool) :
    (w.bhSetSteamId slot incarnation steamId alloc).1.engine.players = w.engine.players := by
  unfold bhSetSteamId
  split
  · rfl
  · split
    · rfl
    · unfold applySteamIdCommand
      split
      · rfl
      · split
        · rfl
        · dsimp only
          split
          · exact players_setControllerFakeClientFlag ..
          · rfl

theorem players_bhSetName (call : SetNameCall) (slot : Int) (incarnation : UInt64)
    (name : Option Bytes) (length : Int) :
    (w.bhSetName call slot incarnation name length).1.engine.players = w.engine.players := by
  unfold bhSetName
  split
  · rfl
  · split
    · rfl
    · split
      · rfl
      · unfold applyPersonaNameCommand
        split
        · rfl
        · exact players_applyClientName ..

theorem engine_bhSetCrosshair (slot : Int) (incarnation : UInt64) (code : Option Bytes)
    (length : Int) : (w.bhSetCrosshair slot incarnation code length).1.engine = w.engine := by
  unfold bhSetCrosshair
  split
  · rfl
  · split <;> rfl

theorem engine_bhSetFlair (slot : Int) (incarnation : UInt64) (flair : UInt32) :
    (w.bhSetFlair slot incarnation flair).1.engine = w.engine := by
  unfold bhSetFlair
  split
  · rfl
  · split <;> rfl

theorem engine_bhSetAvatar (slot : Int) (incarnation : UInt64) (data : Option Bytes)
    (length : Int) (alloc : Bool) :
    (w.bhSetAvatar slot incarnation data length alloc).1.engine = w.engine := by
  unfold bhSetAvatar
  split
  · rfl
  · split
    · rfl
    · dsimp only
      split <;> rfl

theorem engine_queueVisibleWrite (slot : Int) (incarnation : UInt64) (field : VisibleField) :
    (w.queueVisibleWrite slot incarnation field).engine = w.engine := by
  unfold queueVisibleWrite
  split
  · split <;> rfl
  · rfl

theorem players_setBotSteamId (slot : Int) (steamId64 : UInt64) (alloc : Bool) :
    (w.setBotSteamId slot steamId64 alloc).1.engine.players = w.engine.players := by
  unfold setBotSteamId
  split
  · rfl
  · dsimp only
    split
    · exact players_bhSetSteamId ..
    · exact (congrArg Engine.players (engine_queueVisibleWrite ..)).trans (players_bhSetSteamId ..)

theorem players_setPersonaName (call : SetNameCall) (slot : Int) (normalized : Bytes) :
    (w.setPersonaName call slot normalized).1.engine.players = w.engine.players := by
  unfold setPersonaName
  split
  · rfl
  · split
    · rfl
    · dsimp only
      split
      · exact players_bhSetName ..
      · exact (congrArg Engine.players (engine_queueVisibleWrite ..)).trans (players_bhSetName ..)

theorem engine_setCrosshairText (slot : Int) (incarnation : UInt64) (code : Bytes) :
    (w.setCrosshairText slot incarnation code).1.engine = w.engine := by
  unfold setCrosshairText
  dsimp only
  split
  · exact engine_bhSetCrosshair ..
  · exact (engine_queueVisibleWrite ..).trans (engine_bhSetCrosshair ..)

theorem engine_setCrosshairCode (slot : Int) (code : Option Bytes) :
    (w.setCrosshairCode slot code).1.engine = w.engine := by
  unfold setCrosshairCode
  split
  · exact engine_setCrosshairText ..
  · rfl

theorem engine_setScoreboardFlair (slot : Int) (itemDefIndex : UInt32) :
    (w.setScoreboardFlair slot itemDefIndex).1.engine = w.engine := by
  unfold setScoreboardFlair
  split
  · rfl
  · dsimp only
    split
    · exact engine_bhSetFlair ..
    · exact (engine_queueVisibleWrite ..).trans (engine_bhSetFlair ..)

theorem engine_trySetBotAvatar (slot : Int) (pngPath : AvatarPath) :
    (w.trySetBotAvatar slot pngPath).1.engine = w.engine := by
  unfold trySetBotAvatar
  split
  · split
    · rfl
    · split
      · unfold clearBotAvatar
        dsimp only
        split <;> exact engine_bhSetAvatar ..
      · split
        · rfl
        · split <;> rfl
  · rfl

theorem engine_finishAvatarReads (alloc : Slot → Bool) :
    (w.finishAvatarReads alloc).engine = w.engine := by
  refine Sweep.foldl_invariant (P := fun w' : World => w'.engine = w.engine) rfl ?_
  intro w' slot _ h
  unfold finishAvatarRead
  dsimp only
  split
  · exact h
  · split
    · exact h
    · split
      · exact h
      · split
        · exact h
        · exact (engine_bhSetAvatar ..).trans h

/-! ## The panel -/

theorem engine_resetAppliedState : w.resetAppliedState.engine = w.engine :=
  Sweep.foldl_invariant (P := fun w' : World => w'.engine = w.engine) rfl fun _ _ _ h => h

variable {slot t : Slot}

theorem players_setPlayer_of_ne (h : t ≠ slot) (player : Player) :
    (w.setPlayer slot player).engine.players t = w.engine.players t :=
  Function.update_of_ne h ..

theorem players_writeVisible_of_ne (h : t ≠ slot) (player : Player) (snapshot : SlotSnapshot)
    (fault : Option Nat) (field : VisibleField) :
    (w.writeVisible slot player snapshot fault field).engine.players t = w.engine.players t := by
  have hset := fun (w' : World) p => players_setPlayer_of_ne w' h p
  cases field with
  | name name =>
    unfold writeVisible writeVisibleName
    dsimp only
    split
    · rfl
    · split <;> exact hset _ _
  | steamId =>
    unfold writeVisible writeVisibleSid
    dsimp only
    split
    · split
      · rfl
      · split <;> exact hset _ _
    · rfl
  | crosshair code =>
    have happlied : (w.writeVisibleCrosshair slot player code fault).1.engine.players t =
        w.engine.players t := by
      unfold writeVisibleCrosshair
      split
      · rfl
      · exact hset _ _
    unfold writeVisible
    dsimp only
    split <;> exact happlied
  | scoreboardFlair itemDefIndex =>
    have happlied : (w.tryApplyScoreboardFlair slot player itemDefIndex fault).1.engine.players t =
        w.engine.players t := by
      unfold tryApplyScoreboardFlair
      split
      · rfl
      · split
        · rfl
        · dsimp only
          split
          · exact hset _ _
          · split
            · split <;> exact hset _ _
            · exact hset _ _
    unfold writeVisible
    dsimp only
    split <;> exact happlied

/-- The record the managed client reads of a slot is the slot's own. -/
theorem managed_of_readSlot {snapshot : SlotSnapshot} (h : w.readSlot t.val = some snapshot) :
    snapshot.managed = w.manager.isManaged t := by
  unfold readSlot bhGetSlot validSlot at h
  split at h
  · cases h
  · split at h
    · rw [slotOf_val] at h
      obtain rfl := Option.some.inj h
      rfl
    · cases h

/-- Queued writes are for managed slots. -/
theorem players_runNextFrame (hm : w.manager.isManaged t = false) (fault : Option Nat) :
    (w.runNextFrame fault).engine.players t = w.engine.players t := by
  unfold runNextFrame
  split
  · rfl
  · rename_i write rest _
    unfold runVisibleWrite
    split
    · rfl
    · split
      · rfl
      · rename_i snapshot hread
        split
        · rfl
        · rename_i hlive
          have hne : t ≠ write.slot := by
            rintro rfl
            have hmanaged := managed_of_readSlot _ hread
            have hother : (w.withBridge { w.bridge with nextFrame := rest }).manager.isManaged
                write.slot = false := hm
            rw [hother] at hmanaged
            exact hlive (Or.inl (by simp [hmanaged]))
          dsimp only
          split
          · split <;> rfl
          · refine (players_writeVisible_of_ne _ hne ..).trans ?_
            split <;> rfl

/-- So is a reconciliation. -/
theorem players_applyManagedSlot (hm : w.manager.isManaged t = false) (slot : Slot)
    (faults : SlotFaults) :
    (w.applyManagedSlot slot faults).engine.players t = w.engine.players t := by
  unfold applyManagedSlot
  split
  · rfl
  · split
    · rfl
    · rename_i snapshot hread
      split
      · rfl
      · rename_i hlive
        have hne : t ≠ slot := by
          rintro rfl
          rw [managed_of_readSlot w hread, hm] at hlive
          exact hlive rfl
        have hname : ∀ (w' : World) fault, (w'.reconcileName slot snapshot fault).engine.players t =
            w'.engine.players t := by
          intro w' fault
          unfold reconcileName
          split
          · rfl
          · split
            · exact players_writeVisible_of_ne w' hne _ snapshot fault (.name _)
            · rfl
        have hsid : ∀ (w' : World) fault, (w'.reconcileSid slot snapshot fault).engine.players t =
            w'.engine.players t := by
          intro w' fault
          unfold reconcileSid
          split
          · rfl
          · exact players_writeVisible_of_ne w' hne ..
        have hcross : ∀ (w' : World) fault,
            (w'.reconcileCrosshair slot snapshot fault).engine.players t = w'.engine.players t := by
          intro w' fault
          unfold reconcileCrosshair
          split
          · rfl
          · dsimp only
            split
            · exact players_writeVisible_of_ne w' hne ..
            · rfl
        have hflair : ∀ (w' : World) fault,
            (w'.reconcileFlair slot snapshot fault).engine.players t = w'.engine.players t := by
          intro w' fault
          unfold reconcileFlair
          split
          · rfl
          · dsimp only
            split
            · exact players_writeVisible_of_ne w' hne ..
            · rfl
        dsimp only
        split
        · split <;> rfl
        · rw [hflair, hcross, hsid, hname]
          split <;> rfl

end Players

/-! ## Events -/

/-- **Players.** The player of a slot that is not managed is the engine's alone. -/
theorem players_step {w : World} {t : Slot} (hl : w.plugin.loaded = true)
    (hm : w.manager.isManaged t = false) {e : Event} (he : ∀ engine, e ≠ .engine engine) :
    (w.step e).engine.players t = w.engine.players t := by
  cases e with
  | engine engine => exact absurd rfl (he engine)
  | runNextFrame fault => exact players_runNextFrame w hm fault
  | applyManagedSlot slot faults => exact players_applyManagedSlot w hm slot faults
  | clientConnected slot name networkId fakePlayer now =>
    rcases connected_cases w slot name networkId fakePlayer now with h | ⟨_, _, -, -, -, -, h⟩
    · exact congrFun (congrArg (fun w : World => w.engine.players) h) t
    · exact (congrFun (congrArg (fun w : World => w.engine.players) h) t).trans
        (congrFun (players_adoptClient ..) t)
  | clientPutInServer call slot name =>
    exact congrFun (players_hookClientPutInServerPost w call slot name) t
  | clientDisconnect slot targeted =>
    exact congrFun (players_hookClientDisconnectPre w slot targeted) t
  | dispatchPre command botKick =>
    exact congrFun (players_hookDispatchConCommandPre w command botKick) t
  | drainControllerRemovals => exact congrFun (players_drainPendingControllerRemovals w) t
  | releaseHltv call slot => exact congrFun (players_releaseManagedHltvSlot w call slot) t
  | startChangeLevel env => exact congrFun (players_restoreManagedClients _ _) t
  | levelInit gate => exact congrFun (players_onLevelInit w gate) t
  | levelShutdown env =>
    rw [World.step, engine_onLevelShutdown]
  | unload env removed now =>
    have hw : w.unload env removed now = w := by
      unfold unload
      rw [hl]
      rfl
    exact congrFun (congrArg (fun w : World => w.engine.players) hw) t
  | bhSetSteamId => exact congrFun (players_bhSetSteamId w ..) t
  | bhSetName => exact congrFun (players_bhSetName w ..) t
  | bhSetMode gate mode =>
    change (w.bhSetMode gate mode).1.engine.players t = _
    unfold bhSetMode
    split
    · rfl
    · exact congrFun (players_setIdentityMode w gate _) t
  | setBotSteamId => exact congrFun (players_setBotSteamId w ..) t
  | setPersonaName => exact congrFun (players_setPersonaName w ..) t
  | bhSetCrosshair => exact congrArg (·.players t) (engine_bhSetCrosshair w ..)
  | bhSetFlair => exact congrArg (·.players t) (engine_bhSetFlair w ..)
  | bhSetAvatar => exact congrArg (·.players t) (engine_bhSetAvatar w ..)
  | setCrosshairCode => exact congrArg (·.players t) (engine_setCrosshairCode w ..)
  | setScoreboardFlair => exact congrArg (·.players t) (engine_setScoreboardFlair w ..)
  | trySetBotAvatar => exact congrArg (·.players t) (engine_trySetBotAvatar w ..)
  | finishAvatarReads alloc =>
    rw [World.step, engine_finishAvatarReads]
  | quotaPre => exact congrFun (players_beginPopulationFrame w ..) t
  | humanTeamPre => exact congrFun (players_beginPopulationFrame w ..) t
  | joinTeamPre => exact congrFun (players_beginPopulationFrame w ..) t
  | endMatchPre => exact congrFun (players_beginPopulationFrame w ..) t
  | quotaPost => exact congrFun (players_endPopulationFrame w ..) t
  | humanTeamPost => exact congrFun (players_endPopulationFrame w ..) t
  | joinTeamPost => exact congrFun (players_endPopulationFrame w ..) t
  | endMatchPost => exact congrFun (players_endPopulationFrame w ..) t
  | dispatchPost => exact congrFun (players_endPopulationFrame w ..) t
  | votersPre => exact congrFun (players_beginScopedFrame w ..) t
  | scriptIsBotPre => exact congrFun (players_beginScopedFrame w ..) t
  | votersPost => exact congrFun (players_endScopedFrame w ..) t
  | scriptIsBotPost => exact congrFun (players_endScopedFrame w ..) t
  | tables => rfl
  | drainBegin botKick =>
    change (w.drainBegin botKick).engine.players t = _
    unfold drainBegin
    split <;> rfl
  | drainKick fits =>
    change (w.drainKick fits).engine.players t = _
    unfold drainKick
    split
    · rfl
    · dsimp only
      split <;> rfl
  | tick => rfl
  | processOverrides env => rfl
  | bhAttach => rfl
  | bhDetach =>
    change w.bhDetach.engine.players t = _
    unfold bhDetach
    split <;> rfl
  | bhSetNameSource useBotInfo =>
    change (w.bhSetNameSource useBotInfo).1.engine.players t = _
    unfold bhSetNameSource
    split <;> rfl
  | loadImpl found =>
    change (w.loadImpl found).engine.players t = _
    unfold loadImpl
    dsimp only
    split <;> rfl
  | resetAppliedState =>
    rw [World.step, engine_resetAppliedState]
  | unloadImpl =>
    rw [World.step, ← engine_resetAppliedState w]
    unfold unloadImpl bhDetach
    dsimp only
    split
    · rfl
    · split <;> rfl
  | resetAppliedSlot slot => rfl
  | completeAvatarRead slot file =>
    change (w.completeAvatarRead slot file).engine.players t = _
    unfold completeAvatarRead
    dsimp only
    split
    · rfl
    · split <;> rfl

end BotHider.Model
