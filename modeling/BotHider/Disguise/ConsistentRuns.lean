import BotHider.Disguise.Consistency
import BotHider.Identity.Changes

/-!
# BotHider — runs keep the disguise consistent

Modes, levels and the engine's own changes keep `World.Consistent` too, so every event
does, and every run from a load.

* `consistent_step`, `consistent_run` — the step and the run lemma.
* `disguise_consistent` — in every world a run reaches with its frames closed, each
  managed slot shows its mode.
-/

namespace BotHider.Model

open World Engine

variable {w w' : World} {slot : Slot}

/-! ## Modes and levels -/

/-- With no snapshot open the frame list fits every mode. -/
theorem IdentityHooks.Ordered.of_closed {h : IdentityHooks} {mode mode' : IdentityMode}
    (ho : h.Ordered mode) (hclosed : ∀ f ∈ h.frames, f.snapshot = none) : h.Ordered mode' :=
  ⟨ho.depth, ho.identity, ho.redisguise, fun f hf hs => absurd (hclosed f hf) hs, ho.humane⟩

theorem consistent_commitIdentityMode (h : w.Consistent) (hsep : w.engine.SeparateControllers)
    (hclosed : ∀ f ∈ w.hooks.frames, f.snapshot = none) (mode : IdentityMode) :
    (w.commitIdentityMode mode).Consistent := by
  unfold commitIdentityMode
  dsimp only
  split
  · exact h.of_face rfl
  · exact ⟨h.ordered.of_closed hclosed, posed_reapplyDisguise hsep⟩

theorem consistent_of_moded (h : w.Consistent) (hsep : w.engine.SeparateControllers)
    (hclosed : ∀ f ∈ w.hooks.frames, f.snapshot = none) (hw : w.Moded w') : w'.Consistent := by
  obtain ⟨v, hv, rfl | ⟨mode, rfl⟩⟩ := hw
  · exact h.of_face hv
  · refine consistent_commitIdentityMode (h.of_face hv) (separateControllers_of_face hv hsep) ?_ mode
    rw [hooks_of_face hv]
    exact hclosed

/-- With nothing managed only the frame list is left. -/
theorem consistent_of_unmanaged (ho : w.hooks.Ordered w.plugin.identityMode)
    (h : ∀ s, w.manager.isManaged s = false) : w.Consistent :=
  ⟨ho, fun s => posed_of_unmanaged (h s)⟩

theorem consistent_drainPendingControllerRemovals (h : w.Consistent)
    (hset : w.drainPendingControllerRemovals.Settled) :
    w.drainPendingControllerRemovals.Consistent := by
  have hmarks := marks_drainPendingControllerRemovals w
  have hmode : w.drainPendingControllerRemovals.plugin.identityMode = w.plugin.identityMode := by
    rw [hmarks.plugin]
  refine ⟨by rw [hmarks.hooks, hmode]; exact h.ordered, fun s hm c hc => ?_⟩
  -- the slot's controller is live, so it is none of those that go
  obtain ⟨-, k', -, hk', hlive⟩ := hset.resolves s hm
  rw [hmarks.manager] at hm
  rw [hmarks.client] at hc
  rw [hmarks.hooks, hmode, hk']
  obtain ⟨hok, hshows⟩ := h.posed s hm c hc
  refine ⟨hok, fun hd k hk => hshows hd k ?_⟩
  rw [← Option.some.inj hk]
  exact hmarks.live s k' hk' hlive

/-! ## The engine on its own -/

theorem consistent_withEngine (h : w.Consistent) {e : Engine} (hok : KeepsDisguise w (.engine e))
    (hset : w.Settled) (hset' : (w.withEngine e).Settled) : (w.withEngine e).Consistent := by
  refine ⟨h.ordered, fun s hm c' hc' => ?_⟩
  obtain ⟨c, hc, haddr, hid, hbyte, hplayer, hfake, hctl⟩ := hok s c' hm hc'
  obtain ⟨hbyteOk, hshows⟩ := h.posed s hm c hc
  refine ⟨?_, fun hd k' hk' => ?_⟩
  · unfold Client.ByteOk
    rw [hbyte]
    exact hbyteOk
  · obtain ⟨k, hk, hkaddr, hhandle, hfl⟩ := hctl k' hk'
    obtain ⟨-, k₁, -, hk₁, hlive⟩ := hset.resolves s hm
    obtain ⟨-, k₂, -, hk₂, hlive'⟩ := hset'.resolves s hm
    rw [hk] at hk₁
    rw [show (w.withEngine e).engine.controllerAt s = some k' from hk'] at hk₂
    obtain rfl := Option.some.inj hk₁
    obtain rfl := Option.some.inj hk₂
    exact (hshows hd k hk).congr haddr hid hbyte hplayer hfake hkaddr hhandle hfl
      (iff_of_true (liveController_of_controllerAt hk' hlive')
        (liveController_of_controllerAt hk hlive))

/-! ## Steps -/

/-- What is assumed of every step: `KeepsDisguise`, and settled slots before and after. -/
def KeepsSettled (w : World) (e : Event) : Prop :=
  KeepsDisguise w e ∧ w.Settled ∧ (w.step e).Settled

/-- **Step lemma.** Every event keeps the disguise consistent. -/
theorem consistent_step (hl : w.plugin.loaded = true) (h : w.Consistent) {e : Event}
    (hok : KeepsSettled w e) : (w.step e).Consistent := by
  obtain ⟨hkeeps, hset, hset'⟩ := hok
  have hsep := hset.separate
  cases e with
  | engine e => exact consistent_withEngine h hkeeps hset hset'
  | clientConnected slot name networkId fakePlayer now =>
    rcases connected_cases w slot name networkId fakePlayer now with
      hw | ⟨index, _, hi, hfake, hm, -, hw⟩
    · rw [World.step, hw]
      exact h
    · rw [World.step, hw]
      -- a fake player that connects is still as the engine made it
      exact consistent_adoptClient h hsep (hkeeps hfake index hi hm) name now
  | clientPutInServer call slot name =>
    rcases slotOf_cases slot with hn | ⟨index, hi⟩
    · rw [World.step, hookClientPutInServerPost_of_none hn]
      exact h
    · exact consistent_hookClientPutInServerPost h hsep call hi name
  | clientDisconnect slot targeted =>
    rcases slotOf_cases slot with hn | ⟨index, hi⟩
    · rw [World.step, hookClientDisconnectPre_of_none hn]
      exact h
    · exact consistent_hookClientDisconnectPre h hsep hi targeted
  | quotaPre => exact consistent_beginPopulationFrame h hset _ _
  | quotaPost => exact consistent_endPopulationFrame h hsep _ _
  | humanTeamPre => exact consistent_beginPopulationFrame h hset _ _
  | humanTeamPost => exact consistent_endPopulationFrame h hsep _ _
  | joinTeamPre => exact consistent_beginPopulationFrame h hset _ _
  | joinTeamPost => exact consistent_endPopulationFrame h hsep _ _
  | endMatchPre => exact consistent_beginPopulationFrame h hset _ _
  | endMatchPost => exact consistent_endPopulationFrame h hsep _ _
  | votersPre => exact consistent_beginScopedFrame h hset _
  | votersPost => exact consistent_endScopedFrame h hset _
  | scriptIsBotPre => exact consistent_beginScopedFrame h hset _
  | scriptIsBotPost => exact consistent_endScopedFrame h hset _
  | dispatchPre command botKick =>
    obtain ⟨enabled, v, hw, hface, -⟩ := dispatchPre_cases w command botKick
    rw [World.step, hw]
    exact consistent_beginPopulationFrame (h.of_face hface) (settled_of_face hset hface) _ _
  | dispatchPost => exact consistent_endPopulationFrame h hsep _ _
  | drainControllerRemovals => exact consistent_drainPendingControllerRemovals h hset'
  | releaseHltv call slot => exact consistent_releaseManagedHltvSlot h hsep call slot
  | startChangeLevel env =>
    exact consistent_of_unmanaged h.ordered (unmanaged_hookStartChangeLevelPre w env)
  | levelInit gate => exact consistent_of_moded h hsep hkeeps (moded_onLevelInit w gate)
  | levelShutdown env =>
    exact consistent_of_unmanaged (h.ordered.of_closed hkeeps) (unmanaged_onLevelShutdown w env)
  | unload env removed now =>
    rw [World.step, unload_of_loaded hl]
    exact h
  | bhSetSteamId => exact consistent_bhSetSteamId h hsep _ _ _ _
  | bhSetName => exact consistent_bhSetName h hsep _ _ _ _ _
  | bhSetMode gate mode => exact consistent_of_moded h hsep hkeeps (moded_bhSetMode w gate mode)
  | setBotSteamId slot steamId64 alloc =>
    rcases setBotSteamId_cases w slot steamId64 alloc with ⟨_, -, hn⟩ | ⟨-, hw⟩
    · -- the bridge's command ends in the same call
      exact (consistent_bhSetSteamId h hsep slot _ steamId64 alloc).of_face
        (face_of_native hn)
    · rw [World.step, hw]
      exact h
  | setPersonaName call slot normalized =>
    rcases setPersonaName_cases w call slot normalized with ⟨incarnation, hn⟩ | hw
    · exact (consistent_bhSetName h hsep call slot incarnation _ _).of_face (face_of_native hn)
    · rw [World.step, hw]
      exact h
  | _ => exact h.of_face (face_step w rfl)

/-! ## Runs -/

/-- What adopting the bots of a late load keeps: the slots it has yet to come to are as
the engine left them. -/
structure World.Adopting (w : World) : Prop where
  consistent : w.Consistent
  separate : w.engine.SeparateControllers
  born : ∀ (s : Slot) c, w.manager.isManaged s = false → w.engine.resolveClientBySlot s = some c →
    c.isFakePlayerSet = true → w.engine.BornBot s

theorem adopting_adoptExisting (h : w.Adopting) (env : LoadEnv) (slot : Slot)
    (hm : w.manager.isManaged slot = false) : (World.adoptExisting env w slot).Adopting := by
  have hconf := confined_adoptExistingBot w (env.calls slot) (env.times slot) slot
  -- the slots still to come are outside what adopting this one writes
  suffices hself : (World.adoptExisting env w slot).Consistent ∧
      (World.adoptExisting env w slot = w ∨
        (World.adoptExisting env w slot).manager.isManaged slot = true) by
    obtain ⟨hcons, hslot⟩ := hself
    refine ⟨hcons, hconf.engine.agree.separateControllers h.separate, fun s c hms hc hfake => ?_⟩
    rcases eq_or_ne s slot with rfl | hs
    · rcases hslot with hw | hmanaged
      · rw [hw] at hc ⊢
        exact h.born s c hm hc hfake
      · rw [hmanaged] at hms
        cases hms
    · rw [show (World.adoptExisting env w slot).manager.isManaged s = w.manager.isManaged s from
        hconf.isManaged hs] at hms
      rw [show (World.adoptExisting env w slot).engine.resolveClientBySlot s =
        w.engine.resolveClientBySlot s from hconf.client hs] at hc
      intro d hd
      rw [show (World.adoptExisting env w slot).engine.resolveClientBySlot s =
        w.engine.resolveClientBySlot s from hconf.client hs] at hd
      rw [show (World.adoptExisting env w slot).engine.controllerAt s =
        w.engine.controllerAt s from hconf.controller h.separate hs]
      exact h.born s c hms hc hfake d hd
  unfold World.adoptExisting adoptExistingBot
  split
  · exact ⟨h.consistent, Or.inl rfl⟩
  · rename_i client hc
    split
    · exact ⟨h.consistent, Or.inl rfl⟩
    · rename_i hfake
      simp only [Bool.or_eq_true, Bool.not_eq_eq_eq_not, Bool.not_true, not_or,
        Bool.not_eq_false] at hfake
      split
      · exact ⟨h.consistent, Or.inl rfl⟩
      · -- an unmanaged fake player: it is born a bot, so adopting it poses it
        have hadopt := consistent_adoptClient h.consistent h.separate
          (h.born slot client hm hc hfake.1) client.name (env.times slot)
        have hsep := (confined_adoptClient w slot client.name
          (env.times slot)).engine.agree.separateControllers h.separate
        rcases adoptClient_cases w slot client.name (env.times slot) with
          hw | ⟨_, pick, entry, -, -, -, -, hw⟩
        · rw [hw]
          exact ⟨h.consistent, Or.inl rfl⟩
        · rw [hw] at hadopt hsep ⊢
          refine ⟨consistent_applyClientName hadopt hsep _ _, Or.inr ?_⟩
          exact (congrArg (fun f => (f slot).1) (held_applyClientName _ _ slot _)).trans
            (congrArg Prod.fst (held_adoptEntry ..))

theorem consistent_load (env : LoadEnv) (hsep : env.engine.SeparateControllers)
    (hborn : env.engine.MakesBots) : (World.load env).Consistent := by
  obtain ⟨hengine, hhooks⟩ := engine_hooks_loading env
  have hordered : (World.loading env).hooks.Ordered (World.loading env).plugin.identityMode := by
    rw [hhooks]
    exact ⟨rfl, Iff.rfl.trans (by simp), fun h => absurd rfl h, by simp, by
      simp [IdentityHooks.opens]⟩
  refine (load_invariant (I := World.Adopting) env
    ⟨consistent_of_unmanaged hordered (isManaged_loading env), ?_, fun s c _ => ?_⟩
    (fun w s h hm => adopting_adoptExisting h env s hm)
    fun w h => ⟨⟨h.consistent.ordered, h.consistent.posed⟩, h.separate, h.born⟩).consistent
  · rw [hengine]
    exact hsep
  · rw [hengine]
    exact hborn s c

/-- **Run lemma.** The disguise is consistent after every run that keeps its promises. -/
theorem consistent_run (env : LoadEnv) (es : List Event)
    (hsep : env.engine.SeparateControllers) (hborn : env.engine.MakesBots)
    (h : Runs.Admits World.step KeepsSettled (World.load env) es) :
    (World.run env es).Consistent := by
  have hinv : (World.run env es).Sane ∧ (World.run env es).Consistent :=
    Runs.exec_invariant (I := fun w => w.Sane ∧ w.Consistent)
      ⟨sane_load env, consistent_load env hsep hborn⟩
      (fun w e hw hok => ⟨hw.1.step e, consistent_step hw.1.loaded hw.2 hok⟩) h
  exact hinv.2

/-- **The disguise is consistent between frames.** The engine creates bots with the
fake-player flags and `FL_FAKECLIENT` set and leaves those of managed slots alone, every
managed slot has a client and a live controller of its own, and the mode changes only
while no voter or script frame holds a snapshot. Then in every world a run reaches with
all frames closed no transaction is open, no snapshot is held, and each managed slot looks
like a human in Player mode and like a bot in Bot mode. -/
theorem disguise_consistent (env : LoadEnv) (es : List Event)
    (hsep : env.engine.SeparateControllers) (hborn : env.engine.MakesBots)
    (h : Runs.Admits World.step KeepsSettled (World.load env) es)
    (hclosed : (World.run env es).hooks.frames = []) :
    (World.run env es).hooks.populationTransactionDepth = 0 ∧
    (World.run env es).hooks.populationIdentity = none ∧
    ∀ (s : Slot) c k, (World.run env es).manager.isManaged s = true →
      (World.run env es).engine.resolveClientBySlot s = some c →
      (World.run env es).engine.controllerAt s = some k →
      match (World.run env es).plugin.identityMode with
      | .player => c.LooksHuman ∧ k.fakeClient = false
      | .bot => c.LooksBot ∧ k.fakeClient = true := by
  obtain ⟨ho, hposed⟩ := consistent_run env es hsep hborn h
  have hdepth : (World.run env es).hooks.populationTransactionDepth = 0 := by
    rw [ho.depth, hclosed]
    rfl
  refine ⟨hdepth, ho.identity.mpr hdepth, fun s c k hm hc hk => ?_⟩
  have hshows := (hposed s hm c hc).2 hdepth k hk
  have hopens : (World.run env es).hooks.opens s = [] := by
    unfold IdentityHooks.opens
    rw [hclosed]
    rfl
  rw [hopens] at hshows
  cases hmode : (World.run env es).plugin.identityMode with
  | player =>
    rw [hmode] at hshows
    exact (human_iff c k).mp (Undo.Covered.all hshows)
  | bot =>
    rw [hmode] at hshows
    exact hshows

/-- A bot connects, and the engine's quota code runs: afterwards the bot looks like a
human again. -/
theorem disguise_consistent_quota : ∃ c k,
    (World.run smallServer [botConnects 0, .quotaPre, .quotaPost]).engine.resolveClientBySlot 0 =
        some c ∧
      (World.run smallServer [botConnects 0, .quotaPre, .quotaPost]).engine.controllerAt 0 =
        some k ∧
      c.LooksHuman ∧ k.fakeClient = false := by
  obtain ⟨c, hc⟩ := Option.isSome_iff_exists.mp (show ((World.run smallServer
    [botConnects 0, .quotaPre, .quotaPost]).engine.resolveClientBySlot 0).isSome = true by
      decide +kernel)
  obtain ⟨k, hk⟩ := Option.isSome_iff_exists.mp (show ((World.run smallServer
    [botConnects 0, .quotaPre, .quotaPost]).engine.controllerAt 0).isSome = true by
      decide +kernel)
  refine ⟨c, k, hc, hk, ?_⟩
  have hmode : (World.run smallServer
      [botConnects 0, .quotaPre, .quotaPost]).plugin.identityMode = .player := by decide +kernel
  have hborn : ∀ index : Slot, (World.load smallServer).engine.BornBot index := by decide +kernel
  have h := (disguise_consistent smallServer [botConnects 0, .quotaPre, .quotaPost]
    (by decide +kernel) (by decide +kernel)
    ⟨⟨fun _ index _ _ => hborn index, by decide +kernel, by decide +kernel⟩,
      ⟨trivial, by decide +kernel, by decide +kernel⟩,
      ⟨trivial, by decide +kernel, by decide +kernel⟩, trivial⟩
    (by decide +kernel)).2.2 0 c k (by decide +kernel) hc hk
  rw [hmode] at h
  exact h

end BotHider.Model
