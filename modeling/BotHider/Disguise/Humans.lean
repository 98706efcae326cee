import BotHider.Disguise.Consistency
import BotHider.Disguise.Players

/-!
# BotHider — humans are left alone

The plugin works on the clients of managed slots. This module follows a slot the engine never
reports a bot in: what the engine last put there is still there, whatever the plugin has done
about the bots since.

* `spares_step` — an event spares a slot that is not managed.
* `left_drainPendingControllerRemovals` — so does a drain, up to the removal of a controller
  that was queued under the very handle and user ID.
* `humans_untouched` — so does a run.
-/

namespace BotHider.Model

open World Engine

/-! ## Sparing a slot -/

/-- The event reports a bot in the slot. -/
def Event.reportsBot (t : Slot) : Event → Bool
  | .clientConnected slot _ _ fakePlayer _ => fakePlayer && slotOf slot == some t
  | _ => false

/-- The slot is not managed, and its client and controller are as they were. -/
structure World.Spares (t : Slot) (w w' : World) : Prop where
  unmanaged : w'.manager.isManaged t = false
  client : w'.engine.resolveClientBySlot t = w.engine.resolveClientBySlot t
  controller : w'.engine.controllerAt t = w.engine.controllerAt t

section Spares

variable {w w' w'' : World} {slot t : Slot}

theorem World.Spares.refl (hm : w.manager.isManaged t = false) : w.Spares t w := ⟨hm, rfl, rfl⟩

theorem World.Spares.trans (h : w.Spares t w') (h' : w'.Spares t w'') : w.Spares t w'' :=
  ⟨h'.unmanaged, h'.client.trans h.client, h'.controller.trans h.controller⟩

/-- What is spared of a world is spared of every world with its engine. -/
theorem World.Spares.of_engine {v : World} (h : v.Spares t w') (he : v.engine = w.engine) :
    w.Spares t w' :=
  ⟨h.unmanaged, by rw [h.client, he], by rw [h.controller, he]⟩

theorem spares_of_face (hm : w.manager.isManaged t = false) (h : w'.face = w.face) :
    w.Spares t w' :=
  ⟨(isManaged_of_face h t).trans hm, client_of_face h t, controller_of_face h t⟩

/-- Work on another slot. -/
theorem spares_of_confined (hm : w.manager.isManaged t = false)
    (hsep : w.engine.SeparateControllers) (hne : t ≠ slot) (h : Confined slot w w') :
    w.Spares t w' :=
  ⟨(h.isManaged hne).trans hm, h.client hne, h.controller hsep hne⟩

/-- Work on a slot that is managed. -/
theorem spares_of_managed (hm : w.manager.isManaged t = false)
    (hsep : w.engine.SeparateControllers) (hmanaged : w.manager.isManaged slot = true)
    (h : Confined slot w w') : w.Spares t w' := by
  refine spares_of_confined hm hsep ?_ h
  rintro rfl
  exact absurd (hmanaged.symm.trans hm) (by simp)

/-! ### Sweeps -/

theorem spares_reapplyDisguise (hm : w.manager.isManaged t = false)
    (hsep : w.engine.SeparateControllers) : w.Spares t w.reapplyDisguise := by
  obtain ⟨e', hc, hk, h1, h2⟩ :=
    sweep_view (only_applyManagedDisguiseSlot (m := w.manager) w.isDisguiseEnabled) hsep t
  have hbody : applyManagedDisguiseSlot w.manager w.isDisguiseEnabled e' t = e' := by
    unfold applyManagedDisguiseSlot
    rw [hm]
    rfl
  rw [hbody] at h1 h2
  exact ⟨hm, h1.trans hc, h2.trans hk⟩

theorem spares_restoreManagedClients (hm : w.manager.isManaged t = false)
    (hsep : w.engine.SeparateControllers) :
    w.Spares t (w.withEngine (restoreManagedClients w.manager w.engine)) := by
  obtain ⟨e', hc, hk, h1, h2⟩ :=
    sweep_view (only_restoreManagedClientSlot (m := w.manager)) hsep t
  have hbody : restoreManagedClientSlot w.manager e' t = e' := by
    unfold restoreManagedClientSlot
    rw [hm]
    rfl
  rw [hbody] at h1 h2
  exact ⟨hm, h1.trans hc, h2.trans hk⟩

theorem spares_destroy (hm : w.manager.isManaged t = false)
    (hsep : w.engine.SeparateControllers) (snapshot : Option ScopedBotIdentityRestore) :
    w.Spares t (w.destroy snapshot) := by
  cases snapshot with
  | none => exact .refl hm
  | some snapshots =>
    obtain ⟨hc, hk⟩ := restore_of_unmanaged snapshots hsep hm
    exact ⟨hm, hc, hk⟩

/-! ### Frames -/

theorem spares_beginPopulationFrame (hm : w.manager.isManaged t = false)
    (hsep : w.engine.SeparateControllers) (hook : PopulationHook) (enabled : Bool) :
    w.Spares t (w.beginPopulationFrame hook enabled) := by
  unfold beginPopulationFrame
  dsimp only
  split
  · unfold beginPopulationTransaction
    split
    · obtain ⟨hc, hk, -⟩ := capture_of_unmanaged hsep hm
      exact ⟨hm, hc, hk⟩
    · exact ⟨hm, rfl, rfl⟩
  · exact ⟨hm, rfl, rfl⟩

theorem spares_endPopulationFrame (hm : w.manager.isManaged t = false)
    (hsep : w.engine.SeparateControllers) (hook : PopulationHook) (redisguise : Bool) :
    w.Spares t (w.endPopulationFrame hook redisguise) := by
  unfold endPopulationFrame
  split
  · dsimp only
    split
    · unfold endPopulationTransaction
      split
      · exact ⟨hm, rfl, rfl⟩
      · dsimp only
        split
        · exact ⟨hm, rfl, rfl⟩
        · -- closing restores the snapshot, and then puts the mode on again
          generalize hclosed : ({ w with hooks :=
            { w.hooks.pop (Frame.isPopulation hook) with
              populationTransactionDepth := 0
              populationTransactionRedisguise := false
              populationIdentity := none } } : World) = closed
          have he : closed.engine = w.engine := by rw [← hclosed]
          have hmc : closed.manager.isManaged t = false := by rwa [← hclosed]
          have hsepc : closed.engine.SeparateControllers := by rwa [he]
          have hafter := spares_destroy hmc hsepc
            (w.hooks.pop (Frame.isPopulation hook)).populationIdentity
          refine World.Spares.of_engine ?_ he
          split
          · exact hafter.trans
              (spares_reapplyDisguise hafter.unmanaged (separateControllers_destroy hsepc _))
          · exact hafter
    · exact ⟨hm, rfl, rfl⟩
  · exact .refl hm

theorem spares_beginScopedFrame (hm : w.manager.isManaged t = false)
    (hsep : w.engine.SeparateControllers) (hook : ScopedHook) :
    w.Spares t (w.beginScopedFrame hook) := by
  unfold beginScopedFrame
  split
  · obtain ⟨hc, hk, -⟩ := capture_of_unmanaged hsep hm
    exact ⟨hm, hc, hk⟩
  · exact ⟨hm, rfl, rfl⟩

theorem spares_endScopedFrame (hm : w.manager.isManaged t = false)
    (hsep : w.engine.SeparateControllers) (hook : ScopedHook) :
    w.Spares t (w.endScopedFrame hook) := by
  unfold endScopedFrame
  split
  · generalize hpopped : ({ w with hooks := w.hooks.pop (Frame.isScoped hook) } : World) = popped
    have he : popped.engine = w.engine := by rw [← hpopped]
    have hmp : popped.manager.isManaged t = false := by rwa [← hpopped]
    exact (spares_destroy hmp (he ▸ hsep) _).of_engine he
  · exact .refl hm

theorem spares_commitIdentityMode (hm : w.manager.isManaged t = false)
    (hsep : w.engine.SeparateControllers) (mode : IdentityMode) :
    w.Spares t (w.commitIdentityMode mode) := by
  unfold commitIdentityMode
  dsimp only
  split
  · exact ⟨hm, rfl, rfl⟩
  · exact World.Spares.of_engine (spares_reapplyDisguise hm hsep) rfl

theorem spares_of_moded (hm : w.manager.isManaged t = false)
    (hsep : w.engine.SeparateControllers) (h : w.Moded w') : w.Spares t w' := by
  obtain ⟨v, hv, hw | ⟨mode, hw⟩⟩ := h
  · rw [hw]
    exact spares_of_face hm hv
  · have hface := spares_of_face hm hv
    rw [hw]
    exact hface.trans
      (spares_commitIdentityMode hface.unmanaged (separateControllers_of_face hv hsep) mode)

/-! ### Calls -/

theorem spares_bhSetSteamId (hm : w.manager.isManaged t = false)
    (hsep : w.engine.SeparateControllers) (slot : Int) (incarnation steamId : UInt64)
    (alloc : Bool) : w.Spares t (w.bhSetSteamId slot incarnation steamId alloc).1 := by
  rcases bhSetSteamId_cases w slot incarnation steamId alloc with ⟨index, htarget, h⟩ | h
  · rw [h]
    exact spares_of_managed hm hsep (managed_of_target htarget).1
      (confined_applySteamIdCommand w index steamId)
  · rw [h]
    exact .refl hm

theorem spares_bhSetName (hm : w.manager.isManaged t = false)
    (hsep : w.engine.SeparateControllers) (call : SetNameCall) (slot : Int)
    (incarnation : UInt64) (name : Option Bytes) (length : Int) :
    w.Spares t (w.bhSetName call slot incarnation name length).1 := by
  cases htarget : w.target slot incarnation with
  | none =>
    unfold bhSetName
    rw [htarget]
    exact .refl hm
  | some index =>
    exact spares_of_managed hm hsep (managed_of_target htarget).1
      (confined_bhSetName w call htarget name length)

/-! ### Levels -/

theorem spares_releaseAll (w : World) (t : Slot) : w.Spares t w.releaseAll :=
  ⟨rfl, rfl, rfl⟩

theorem spares_hookStartChangeLevelPre (hm : w.manager.isManaged t = false)
    (hsep : w.engine.SeparateControllers) (env : PassEnv) :
    w.Spares t (w.hookStartChangeLevelPre env) := by
  have hreleased := (spares_restoreManagedClients hm hsep).trans (spares_releaseAll _ t)
  exact hreleased.trans (spares_of_face hreleased.unmanaged (face_processOverrides _ env))

theorem spares_onLevelShutdown (w : World) (t : Slot) (env : PassEnv) :
    w.Spares t (w.onLevelShutdown env) := by
  have hreleased := spares_releaseAll w t
  have hreset := hreleased.trans (spares_of_face hreleased.unmanaged
    ((face_resetRuntime _).trans (face_processOverrides w.releaseAll env)))
  exact ⟨hreset.unmanaged, hreset.client, hreset.controller⟩

/-! ### Events -/

/-- **Sparing.** An event leaves the client and the controller of an unmanaged slot alone,
unless it is the engine's, reports a bot there or drains the removals. -/
theorem spares_step (hl : w.plugin.loaded = true) (hm : w.manager.isManaged t = false)
    (hsep : w.engine.SeparateControllers) {e : Event} (hengine : ∀ engine, e ≠ .engine engine)
    (hdrain : e ≠ .drainControllerRemovals) (hbot : e.reportsBot t = false) :
    w.Spares t (w.step e) := by
  cases hq : e.quiet with
  | true => exact spares_of_face hm (face_step w hq)
  | false =>
    cases e with
    | engine engine => exact absurd rfl (hengine engine)
    | drainControllerRemovals => exact absurd rfl hdrain
    | clientConnected slot name networkId fakePlayer now =>
      rcases connected_cases w slot name networkId fakePlayer now with
        h | ⟨index, _, hindex, hfake, -, -, h⟩
      · rw [World.step, h]
        exact .refl hm
      · have hne : t ≠ index := by
          rintro rfl
          simp [Event.reportsBot, hindex, hfake] at hbot
        rw [World.step, h]
        exact spares_of_confined hm hsep hne (confined_adoptClient w index name now)
    | clientPutInServer call slot name =>
      rw [World.step]
      cases hindex : slotOf slot with
      | none =>
        unfold hookClientPutInServerPost
        rw [hindex]
        exact .refl hm
      | some index =>
        by_cases hne : t = index
        · subst hne
          unfold hookClientPutInServerPost
          rw [hindex]
          dsimp only
          rw [hm]
          exact .refl hm
        · exact spares_of_confined hm hsep hne
            (confined_hookClientPutInServerPost w call hindex name)
    | clientDisconnect slot targeted =>
      rw [World.step]
      cases hindex : slotOf slot with
      | none =>
        unfold hookClientDisconnectPre
        rw [hindex]
        exact .refl hm
      | some index =>
        by_cases hne : t = index
        · subst hne
          unfold hookClientDisconnectPre
          rw [hindex]
          dsimp only
          rw [hm]
          exact .refl hm
        · exact spares_of_confined hm hsep hne
            (confined_hookClientDisconnectPre w hindex targeted)
    | quotaPre => exact spares_beginPopulationFrame hm hsep ..
    | humanTeamPre => exact spares_beginPopulationFrame hm hsep ..
    | joinTeamPre controller => exact spares_beginPopulationFrame hm hsep ..
    | endMatchPre pickNewTeams => exact spares_beginPopulationFrame hm hsep ..
    | dispatchPre command botKick =>
      obtain ⟨enabled, w', h, hface, -⟩ := dispatchPre_cases w command botKick
      have hsame := spares_of_face hm hface
      rw [World.step, h]
      exact hsame.trans (spares_beginPopulationFrame hsame.unmanaged
        (separateControllers_of_face hface hsep) .command enabled)
    | quotaPost => exact spares_endPopulationFrame hm hsep ..
    | humanTeamPost => exact spares_endPopulationFrame hm hsep ..
    | joinTeamPost => exact spares_endPopulationFrame hm hsep ..
    | endMatchPost => exact spares_endPopulationFrame hm hsep ..
    | dispatchPost => exact spares_endPopulationFrame hm hsep ..
    | votersPre => exact spares_beginScopedFrame hm hsep ..
    | scriptIsBotPre => exact spares_beginScopedFrame hm hsep ..
    | votersPost => exact spares_endScopedFrame hm hsep ..
    | scriptIsBotPost => exact spares_endScopedFrame hm hsep ..
    | releaseHltv call slot =>
      rw [World.step]
      rcases hltv_cases w call slot with h | ⟨_, -, hmanaged, -⟩
      · rw [h]
        exact .refl hm
      · exact spares_of_managed hm hsep hmanaged (confined_releaseManagedHltvSlot w call slot)
    | startChangeLevel env => exact spares_hookStartChangeLevelPre hm hsep env
    | levelInit gate => exact spares_of_moded hm hsep (moded_onLevelInit w gate)
    | levelShutdown env => exact spares_onLevelShutdown w t env
    | unload env removed now =>
      have hw : w.unload env removed now = w := by
        unfold unload
        rw [hl]
        rfl
      rw [World.step, hw]
      exact .refl hm
    | bhSetSteamId => exact spares_bhSetSteamId hm hsep ..
    | bhSetName => exact spares_bhSetName hm hsep ..
    | bhSetMode gate mode => exact spares_of_moded hm hsep (moded_bhSetMode w gate mode)
    | setBotSteamId slot steamId64 alloc =>
      rw [World.step]
      rcases setBotSteamId_cases w slot steamId64 alloc with ⟨s, -, h⟩ | ⟨-, h⟩
      · have hset := spares_bhSetSteamId hm hsep slot s.incarnation steamId64 alloc
        exact hset.trans (spares_of_face hset.unmanaged (face_of_native h))
      · rw [h]
        exact .refl hm
    | setPersonaName call slot normalized =>
      rw [World.step]
      rcases setPersonaName_cases w call slot normalized with ⟨incarnation, h⟩ | h
      · have hset := spares_bhSetName hm hsep call slot incarnation (some normalized)
          normalized.length
        exact hset.trans (spares_of_face hset.unmanaged (face_of_native h))
      · rw [h]
        exact .refl hm
    | _ => cases hq

end Spares

/-! ## Removals -/

/-- One of the removals names the handle of the slot's controller and the user ID of its
client, and the controller is on its way out. -/
def Engine.Removed (t : Slot) (given : Engine) (items : List PendingControllerRemoval)
    (e : Engine) : Prop :=
  ∃ item ∈ items, ∃ c k, given.resolveClientBySlot t = some c ∧ given.controllerAt t = some k ∧
    item.handle = k.handle ∧ item.userId = c.userId ∧
    e.controllerAt t = some { k with beingDeleted := true }

/-- The slot's client is as it was, and so is its controller but for a removal. -/
structure Engine.Left (t : Slot) (given : Engine) (items : List PendingControllerRemoval)
    (e : Engine) : Prop where
  client : e.resolveClientBySlot t = given.resolveClientBySlot t
  controller : e.controllerAt t = given.controllerAt t ∨ given.Removed t items e

section Removals

variable {given e e' : Engine} {t : Slot} {items items' : List PendingControllerRemoval}

theorem Engine.Left.start (t : Slot) (given : Engine) : given.Left t [] given :=
  ⟨rfl, Or.inl rfl⟩

theorem Engine.Removed.mono (h : given.Removed t items e) (hsub : items ⊆ items') :
    given.Removed t items' e := by
  obtain ⟨item, hitem, hrest⟩ := h
  exact ⟨item, hsub hitem, hrest⟩

theorem Engine.Left.mono (h : given.Left t items e) (hsub : items ⊆ items') :
    given.Left t items' e :=
  ⟨h.client, h.controller.imp_right fun hr => hr.mono hsub⟩

theorem Engine.Left.of_eq (h : given.Left t items e)
    (hc : e'.resolveClientBySlot t = e.resolveClientBySlot t)
    (hk : e'.controllerAt t = e.controllerAt t) : given.Left t items e' := by
  refine ⟨hc.trans h.client, ?_⟩
  unfold Engine.Removed
  rw [hk]
  exact h.controller

/-- Marking an entity under a queued handle reaches the slot's controller only when it is the
one that was queued, for the user who is in the slot. -/
theorem left_removalVisit {w : World} {item : PendingControllerRemoval} {current : Entity}
    (h : given.Left t items w.engine) (hone : w.engine.OneClientEach)
    (hm : w.Matches item current) (hitem : item ∈ items)
    (hrefs : ∀ userId, w.controllerReference current.addr = some userId → userId = item.userId) :
    given.Left t items (w.engine.modifyEntity (entryIndex item.handle)
      fun k => { k with beingDeleted := true }) := by
  have hpos := w.engine.pos_of_resolveEntityInstance hm.resolved
  cases hc : w.engine.resolveClientBySlot t with
  | none =>
    refine h.of_eq rfl ?_
    unfold controllerAt
    rw [resolveClientBySlot_modifyEntity, hc]
    rfl
  | some c =>
    have hmark := controllerAt_modifyEntity (f := fun k => { k with beingDeleted := true })
      w.engine hc hpos fun _ => rfl
    by_cases hindex : c.entityIndex = entryIndex item.handle
    · -- the entity is the slot's controller
      have hk : w.engine.controllerAt t = some current := by
        unfold controllerAt
        rw [hc, Option.bind_some, resolveController_eq_some, hindex]
        exact ⟨hm.resolved, hm.live.1⟩
      have huser := hrefs c.userId (userId_of_controllerReference hone hc hk)
      have hgiven : given.controllerAt t = some current := by
        rcases h.controller with hsame | ⟨-, -, -, k, -, -, -, -, hgone⟩
        · rw [← hsame, hk]
        · rw [hk] at hgone
          have hlive := hm.live.2
          rw [Option.some.inj hgone] at hlive
          cases hlive
      rw [if_pos hindex, hk, Option.map_some] at hmark
      refine ⟨h.client, Or.inr ⟨item, hitem, c, current, ?_, hgiven, hm.handle.symm, huser.symm,
        hmark⟩⟩
      rw [← h.client, hc]
    · rw [if_neg hindex] at hmark
      exact h.of_eq rfl hmark

theorem left_drainPendingControllerRemovals {w : World} (h : given.Left t items w.engine)
    (hone : w.engine.OneClientEach) :
    given.Left t (items ++ w.identity.pendingControllerRemovals)
      w.drainPendingControllerRemovals.engine := by
  have hstart := h.mono (List.subset_append_left items w.identity.pendingControllerRemovals)
  unfold drainPendingControllerRemovals
  split
  · exact hstart
  · refine And.left (b := Engine.OneClientEach _) (Sweep.foldl_invariant
      (P := fun s : World × List PendingControllerRemoval =>
        given.Left t (items ++ w.identity.pendingControllerRemovals) s.1.engine ∧
          s.1.engine.OneClientEach) ⟨hstart, hone⟩ ?_)
    intro s item hitem hs
    rw [drainControllerRemoval_eq]
    unfold Grace.visit
    rcases removalVisit_cases s.1 item with hv | ⟨_, -, -, -, hv⟩ | ⟨current, hm, hrefs, hv⟩
    · rw [hv]
      exact hs
    · rw [hv]
      exact hs
    · rw [hv]
      exact ⟨left_removalVisit hs.1 hs.2 hm (List.mem_append_right _ hitem) hrefs,
        oneClientEach_modifyEntity hs.2 (s.1.engine.pos_of_resolveEntityInstance hm.resolved)⟩

end Removals

/-! ## Runs -/

/-- A world beside what the engine last made of its memory, and the removals that were drained
since. -/
structure Logged where
  world : World
  given : Engine
  drained : List PendingControllerRemoval := []

namespace Logged

/-- An event, noted. -/
def step (l : Logged) (e : Event) : Logged where
  world := l.world.step e
  given := match e with
    | .engine engine => engine
    | _ => l.given
  drained := match e with
    | .engine _ => []
    | .drainControllerRemovals => l.drained ++ l.world.identity.pendingControllerRemovals
    | _ => l.drained

/-- What is promised of an event: it reports no bot in the slot, and it finds the clients'
controllers apart. -/
structure Promised (t : Slot) (l : Logged) (e : Event) : Prop where
  human : e.reportsBot t = false
  separate : l.world.engine.SeparateControllers
  one : l.world.engine.OneClientEach

/-- The slot is what the engine last made of it. -/
structure Untouched (t : Slot) (l : Logged) : Prop where
  loaded : l.world.plugin.loaded = true
  unmanaged : l.world.manager.isManaged t = false
  left : l.given.Left t l.drained l.world.engine
  player : l.world.engine.players t = l.given.players t

variable {t : Slot} {l : Logged}

/-- **Step lemma.** -/
theorem Untouched.step (h : l.Untouched t) {e : Event} (hp : l.Promised t e) :
    (l.step e).Untouched t := by
  have hloaded := loaded_step h.loaded e
  by_cases hengine : ∃ engine, e = .engine engine
  · obtain ⟨engine, rfl⟩ := hengine
    exact ⟨hloaded, h.unmanaged, Engine.Left.start t engine, rfl⟩
  · rw [not_exists] at hengine
    have hplayer := (players_step h.loaded h.unmanaged hengine).trans h.player
    by_cases hdrain : e = .drainControllerRemovals
    · subst hdrain
      have hm : l.world.drainPendingControllerRemovals.manager = l.world.manager :=
        (marks_drainPendingControllerRemovals l.world).manager
      refine ⟨hloaded, ?_, left_drainPendingControllerRemovals h.left hp.one, hplayer⟩
      exact (congrArg (·.isManaged t) hm).trans h.unmanaged
    · have hspares := spares_step h.loaded h.unmanaged hp.separate hengine hdrain hp.human
      have hleft := h.left.of_eq hspares.client hspares.controller
      have hstep : l.step e = { l with world := l.world.step e } := by
        cases e with
        | engine engine => exact absurd rfl (hengine engine)
        | drainControllerRemovals => exact absurd rfl hdrain
        | _ => rfl
      rw [hstep]
      exact ⟨hloaded, hspares.unmanaged, hleft, hplayer⟩

/-- The log of a plugin that was just loaded. -/
def load (env : LoadEnv) : Logged where
  world := World.load env
  given := env.engine

/-- What holds of the slot while a load adopts the bots already there. -/
structure Passed (t : Slot) (engine : Engine) (w : World) : Prop where
  unmanaged : w.manager.isManaged t = false
  separate : w.engine.SeparateControllers
  client : w.engine.resolveClientBySlot t = engine.resolveClientBySlot t
  controller : w.engine.controllerAt t = engine.controllerAt t
  players : w.engine.players = engine.players

theorem passed_adoptExisting {engine : Engine} {w : World} (h : Passed t engine w)
    (hhuman : ∀ c, engine.resolveClientBySlot t = some c → c.isFakePlayerSet = false)
    (env : LoadEnv) (s : Slot) : Passed t engine (World.adoptExisting env w s) := by
  by_cases hne : t = s
  · subst hne
    have hw : World.adoptExisting env w t = w := by
      unfold World.adoptExisting adoptExistingBot
      cases hc : w.engine.resolveClientBySlot t with
      | none => rfl
      | some c =>
        dsimp only
        rw [hhuman c (h.client.symm.trans hc)]
        rfl
    rwa [hw]
  · have hconfined := confined_adoptExistingBot w (env.calls s) (env.times s) s
    have hspares := spares_of_confined h.unmanaged h.separate hne hconfined
    exact ⟨hspares.unmanaged, hconfined.engine.agree.separateControllers h.separate,
      hspares.client.trans h.client, hspares.controller.trans h.controller,
      (players_adoptExistingBot ..).trans h.players⟩

theorem untouched_load {env : LoadEnv} (hsep : env.engine.SeparateControllers)
    (hhuman : ∀ c, env.engine.resolveClientBySlot t = some c → c.isFakePlayerSet = false) :
    (load env).Untouched t := by
  have hengine := (engine_hooks_loading env).1
  have hpassed : Passed t env.engine (World.load env) := by
    refine load_invariant (I := Passed t env.engine) env ?_
      (fun w s h _ => passed_adoptExisting h hhuman env s)
      fun w h => ⟨h.unmanaged, h.separate, h.client, h.controller, h.players⟩
    refine ⟨isManaged_loading env t, ?_, ?_, ?_, ?_⟩ <;> rw [hengine]
    exact hsep
  exact ⟨rfl, hpassed.unmanaged, ⟨hpassed.client, Or.inl hpassed.controller⟩,
    congrFun hpassed.players t⟩

end Logged

/-- **Humans are left alone.** In a slot that holds no bot at the load, and in which the engine
reports none, whatever happens to the other slots and in whatever order: the slot is never
managed, and the client, the player and the controller in it are what the engine last made of
them; only a removal that was queued under the controller's handle and the client's user ID
takes the controller away. -/
theorem humans_untouched {env : LoadEnv} {t : Slot} {es : List Event}
    (hsep : env.engine.SeparateControllers)
    (hhuman : ∀ c, env.engine.resolveClientBySlot t = some c → c.isFakePlayerSet = false)
    (ha : Runs.Admits Logged.step (Logged.Promised t) (Logged.load env) es) :
    let w := World.run env es
    let l := Runs.exec Logged.step (Logged.load env) es
    w.manager.isManaged t = false ∧
      w.engine.resolveClientBySlot t = l.given.resolveClientBySlot t ∧
      w.engine.players t = l.given.players t ∧
      (w.engine.controllerAt t = l.given.controllerAt t ∨ l.given.Removed t l.drained w.engine) := by
  intro w l
  have hworld : l.world = w := Runs.exec_view Logged.world (fun _ _ => rfl) (Logged.load env) es
  have h : l.Untouched t := Runs.exec_invariant (Logged.untouched_load hsep hhuman)
    (fun _ _ h hp => h.step hp) ha
  rw [← hworld]
  exact ⟨h.unmanaged, h.left.client, h.player, h.left.controller⟩

/-- A human as the engine creates one, with entity `3`. -/
def humanClient : Client :=
  { botClient 3 with
    name := some (ascii "Ann")
    connectionFlags := 0x01
    fakePlayer := 0
    steamId := 76561197960265729
    steamIdMirror := 76561197960265729 }

/-- A bot in slot `0` and a human in slot `1`. -/
def botAndHuman : Engine :=
  { twoBots with
    gameServer := some { addr := 1, clients := [some (botClient 1), some humanClient] }
    entities := fun i => if i = 1 ∨ i = 3 then some (botController i) else none }

/-- The bot is adopted, kicked during a quota change, and its controller removed. -/
def botComesAndGoes : List Event :=
  [botConnects 0, .quotaPre, .clientDisconnect 0 true, .quotaPost, .drainControllerRemovals]

theorem humans_untouched_botComesAndGoes :
    (World.run { smallServer with engine := botAndHuman } botComesAndGoes).engine.resolveClientBySlot
      (1 : Slot) = some humanClient :=
  (@humans_untouched { smallServer with engine := botAndHuman } 1 botComesAndGoes
    (by decide +kernel) (by decide +kernel)
    ⟨⟨rfl, by decide +kernel, Engine.oneClientEach_of_forall (by decide +kernel)⟩,
      ⟨rfl, by decide +kernel, Engine.oneClientEach_of_forall (by decide +kernel)⟩,
      ⟨rfl, by decide +kernel, Engine.oneClientEach_of_forall (by decide +kernel)⟩,
      ⟨rfl, by decide +kernel, Engine.oneClientEach_of_forall (by decide +kernel)⟩,
      ⟨rfl, by decide +kernel, Engine.oneClientEach_of_forall (by decide +kernel)⟩,
      trivial⟩).2.1

end BotHider.Model
