import BotHider.Disguise.Raises
import BotHider.Identity.Changes

/-!
# BotHider — bots in a population transaction

While a population transaction is active, every managed slot's controller must have
`FL_FAKECLIENT`, or the engine counts it as a human. Adoption and server entry look at
`PopulationTransactionActive` before they touch the flag; `ApplySteamIdCommand` does not.

* `Guarded` — the invariant: a snapshot taken inside a transaction notes the flag of
  no slot, so that closing it clears none.
* `bots_in_transaction` — the flag is set all along a run exactly when no SteamID call
  goes through in an active transaction.
* `renumbered_in_transaction` — a run in which one does.
-/

namespace BotHider.Model

open World Engine

variable {w w' : World} {slot : Slot}

/-! ## The invariant -/

/-- In an active transaction the controller of every managed slot has `FL_FAKECLIENT`. -/
def World.SeenAsBots (w : World) : Prop :=
  w.populationTransactionActive = true → w.engine.Bots w.manager

/-- A frame nested in a transaction notes `FL_FAKECLIENT` of no slot. -/
def Inner : List Frame → Prop
  | [] => True
  | f :: older => (older.countP Frame.enabled ≠ 0 → ∀ snapshots, f.snapshot = some snapshots →
      ∀ s, (snapshots s).controllerFlagsMask.getLsbD 8 = false) ∧ Inner older

/-- The whole invariant. -/
structure World.Guarded (w : World) : Prop where
  depth : w.hooks.populationTransactionDepth = w.hooks.frames.countP Frame.enabled
  mode : w.populationTransactionActive = true → w.plugin.identityMode = .player
  inner : Inner w.hooks.frames
  bots : w.SeenAsBots

/-- The newest frame of all is one of the hook's. -/
def World.newest (w : World) (own : Frame → Bool) : Bool := w.hooks.frames.head?.any own

/-- The engine does not clear `FL_FAKECLIENT` of a managed slot's controller, nor give the
slot one without it; and hook calls nest, so a POST callback finds its own frame newest. -/
def KeepsBots (w : World) : Event → Prop
  | .engine e => ∀ (s : Slot) k', w.manager.isManaged s = true → e.controllerAt s = some k' →
      k'.beingDeleted = false → k'.fakeClient = false →
      ∃ k, w.engine.controllerAt s = some k ∧ k.beingDeleted = false ∧ k.fakeClient = false
  | .quotaPost => w.newest (Frame.isPopulation .quota) = true
  | .humanTeamPost => w.newest (Frame.isPopulation .humanTeam) = true
  | .joinTeamPost => w.newest (Frame.isPopulation .joinTeam) = true
  | .endMatchPost => w.newest (Frame.isPopulation .endMatch) = true
  | .dispatchPost => w.newest (Frame.isPopulation .command) = true
  | .votersPost => w.newest (Frame.isScoped .voters) = true
  | .scriptIsBotPost => w.newest (Frame.isScoped .scriptIsBot) = true
  | _ => True

/-- What is assumed of every step: `KeepsBots`, and no mode change in a transaction. -/
def KeepsTransaction (w : World) (e : Event) : Prop :=
  KeepsBots w e ∧ (w.populationTransactionActive = true →
    (w.step e).plugin.identityMode = w.plugin.identityMode)

/-- The call is refused, or made outside transactions, or for a slot without a controller
that stays. -/
def World.SparesCall (w : World) (slot : Int) (incarnation steamId : UInt64) (alloc : Bool) :
    Prop :=
  w.populationTransactionActive = true → ∀ index, w.target slot incarnation = some index →
    steamId ≠ 0 → alloc = true →
    checkSteamIdAvailability w.manager w.engine index steamId = .available →
    ∀ k, w.engine.controllerAt index = some k → k.beingDeleted = true

/-- No SteamID call goes through in an active transaction. -/
def SparesTransaction (w : World) : Event → Prop
  | .bhSetSteamId slot incarnation steamId alloc => w.SparesCall slot incarnation steamId alloc
  | .setBotSteamId slot steamId alloc => ∀ s, w.readSlot slot = some s →
      w.SparesCall slot s.incarnation steamId alloc
  | _ => True

/-! ## Operations that open or close no frame -/

theorem active_of_hooks (h : w'.hooks = w.hooks) :
    w'.populationTransactionActive = w.populationTransactionActive := by
  unfold populationTransactionActive
  rw [h]

/-- An operation has only the flags of a transaction in progress to account for. -/
theorem World.Guarded.of_hooks (h : w.Guarded) (hhooks : w'.hooks = w.hooks)
    (hmode : w.populationTransactionActive = true →
      w'.plugin.identityMode = w.plugin.identityMode)
    (hbots : w.populationTransactionActive = true → w.isDisguiseEnabled = true →
      w.engine.Bots w.manager → w'.engine.Bots w'.manager) : w'.Guarded where
  depth := by
    rw [hhooks]
    exact h.depth
  mode ha := by
    rw [active_of_hooks hhooks] at ha
    exact (hmode ha).trans (h.mode ha)
  inner := by
    rw [hhooks]
    exact h.inner
  bots ha := by
    rw [active_of_hooks hhooks] at ha
    exact hbots ha (by simp [isDisguiseEnabled, h.mode ha]) (h.bots ha)

theorem bots_of_face (hf : w'.face = w.face) (h : w.engine.Bots w.manager) :
    w'.engine.Bots w'.manager := by
  intro s k hm hk
  rw [isManaged_of_face hf] at hm
  rw [controller_of_face hf] at hk
  exact h s k hm hk

theorem World.Guarded.of_face (h : w.Guarded) (hf : w'.face = w.face) : w'.Guarded :=
  h.of_hooks (hooks_of_face hf) (fun _ => mode_of_face hf) fun _ _ => bots_of_face hf

/-- An operation on one slot that clears no flag: a slot it makes managed has to have it. -/
theorem World.Guarded.of_confined (h : w.Guarded) (hc : Confined slot w w')
    (hr : w.populationTransactionActive = true → Raises w.engine w'.engine)
    (hself : w.populationTransactionActive = true → w.isDisguiseEnabled = true →
      w'.manager.isManaged slot = true → w.manager.isManaged slot = true ∨
        ∀ k, w'.engine.controllerAt slot = some k → k.fakeClient = true) : w'.Guarded := by
  refine h.of_hooks hc.hooks (fun _ => by rw [hc.plugin]) fun ha hd hb s k' hm hk' hlive' => ?_
  obtain ⟨k, hk, hlive, hkeep⟩ := hr ha s k' hk' hlive'
  rcases eq_or_ne s slot with rfl | hs
  · rcases hself ha hd hm with hm | hself
    · exact hkeep (hb s k hm hk hlive)
    · exact hself k' hk'
  · rw [hc.isManaged hs] at hm
    exact hkeep (hb s k hm hk hlive)

/-- A release needs to clear no flag only. -/
theorem World.Guarded.of_released (h : w.Guarded) (hc : Confined slot w w')
    (hr : Raises w.engine w'.engine) (hm : w'.manager.isManaged slot = false) : w'.Guarded :=
  h.of_confined hc (fun _ => hr) fun _ _ hm' => by
    rw [hm] at hm'
    cases hm'

theorem bots_of_unmanaged {m : FakeClientManager} (h : ∀ s, m.isManaged s = false)
    (e : Engine) : e.Bots m := by
  intro s k hm
  rw [h s] at hm
  cases hm

theorem guarded_adoptClient (h : w.Guarded) (slot : Slot) (name : Option Bytes) (now : UInt64) :
    (w.adoptClient slot name now).1.Guarded := by
  have hconf := confined_adoptClient w slot name now
  rcases adoptClient_cases w slot name now with hw | ⟨occupied, pick, entry, -, -, -, -, hw⟩
  · rw [hw]
    exact h
  · rw [hw] at hconf ⊢
    have hr (ha : w.populationTransactionActive = true) :=
      raises_adoptEntry (w := { w with botInfo := (w.botInfo.pickForBot name occupied).2 }) ha
        slot name now pick entry
    refine h.of_confined hconf hr fun ha hd _ => Or.inr fun k hk => ?_
    rw [controller_adoptEntry] at hk
    obtain ⟨k₀, -, rfl⟩ := Option.map_eq_some_iff.mp hk
    change (if w.isDisguiseEnabled then k₀.withFakeClient w.populationTransactionActive
      else k₀).fakeClient = true
    rw [hd, ha]
    exact Entity.fakeClient_withFakeClient true k₀

theorem guarded_applyClientName (h : w.Guarded) (call : SetNameCall) (slot : Slot)
    (name : Bytes) : (w.applyClientName call slot name).1.Guarded :=
  h.of_confined (confined_applyClientName w call slot name)
    (fun _ => raises_setEngineName _ call slot name) fun _ _ hm => Or.inl
      ((congrArg (fun f => (f slot).1) (held_applyClientName w call slot name) : _).symm.trans hm)

theorem guarded_hookClientPutInServerPost (h : w.Guarded) (call : SetNameCall) {slot : Int}
    {index : Slot} (hi : slotOf slot = some index) (name : Option Bytes) :
    (w.hookClientPutInServerPost call slot name).Guarded := by
  have hconf := confined_hookClientPutInServerPost w call hi name
  rcases putInServer_cases w call hi name with
    hw | ⟨hm, client, hc, ⟨-, hw⟩ | ⟨-, hw⟩ | ⟨-, hw⟩⟩
  · rw [hw]
    exact h
  · rw [hw] at hconf ⊢
    exact h.of_confined hconf (fun _ => raises_releaseManagedHltvSlot w call index)
      fun _ _ _ => Or.inl hm
  · rw [hw] at hconf ⊢
    exact h.of_released hconf (raises_restoreClient w.engine index) (isManaged_releaseSlot _ index)
  · rw [hw] at hconf ⊢
    exact h.of_confined hconf (fun ha => raises_reapplyIdentity ha call index name)
      fun _ _ _ => Or.inl hm

theorem guarded_hookClientDisconnectPre (h : w.Guarded) {slot : Int} {index : Slot}
    (hi : slotOf slot = some index) (targeted : Bool) :
    (w.hookClientDisconnectPre slot targeted).Guarded := by
  rcases disconnect_cases w hi targeted with ⟨-, hw⟩ | ⟨-, -, hw⟩ | ⟨-, -, hw⟩
  · rw [hw]
    exact h
  · rw [hw]
    exact h.of_released (confined_releaseSlot w index) (.refl _) (isManaged_releaseSlot _ index)
  · refine World.Guarded.of_face ?_ hw
    exact h.of_released ((confined_restoreSlotClient w index).trans (confined_releaseSlot _ index))
      (raises_restoreClient w.engine index) (isManaged_releaseSlot _ index)

theorem guarded_releaseManagedHltvSlot (h : w.Guarded) (call : SetNameCall) (slot : Slot) :
    (w.releaseManagedHltvSlot call slot).1.Guarded := by
  rcases hltv_cases w call slot with hw | ⟨_, -, -, -, -, hu, -⟩
  · rw [hw]
    exact h
  · exact h.of_released (confined_releaseManagedHltvSlot w call slot)
      (raises_releaseManagedHltvSlot w call slot) hu

theorem guarded_bhSetName (h : w.Guarded) (call : SetNameCall) (slot : Int)
    (incarnation : UInt64) (name : Option Bytes) (length : Int) :
    (w.bhSetName call slot incarnation name length).1.Guarded := by
  unfold bhSetName
  split
  · exact h
  · split
    · exact h
    · split
      · exact h
      · unfold applyPersonaNameCommand
        split
        · exact h
        · exact guarded_applyClientName h call _ _

/-! ## SteamID calls -/

/-- A spared call clears the flag of no controller that stays. -/
theorem guarded_bhSetSteamId (h : w.Guarded) {slot : Int} {incarnation steamId : UInt64}
    {alloc : Bool} (hok : w.SparesCall slot incarnation steamId alloc) :
    (w.bhSetSteamId slot incarnation steamId alloc).1.Guarded := by
  unfold bhSetSteamId
  split
  · exact h
  · rename_i index htarget
    split
    · exact h
    · rename_i hvalid
      simp only [Bool.not_eq_eq_eq_not, Bool.not_true, not_or, Bool.not_eq_false] at hvalid
      rcases applySteamIdCommand_cases w index steamId with ⟨hw, -⟩ | ⟨havail, -, hman, -, -⟩
      · rw [hw]
        exact h
      · refine h.of_confined (confined_applySteamIdCommand w index steamId) (fun ha => ?_)
          fun _ _ hm => Or.inl ?_
        · have hspared := hok ha index htarget hvalid.1 hvalid.2 havail
          unfold applySteamIdCommand
          split
          · exact .refl _
          · split
            · exact .refl _
            · dsimp only
              split
              · exact (raises_disguiseClient w index (Or.inr hspared)).trans
                  (raises_writeSteamId _ index steamId)
              · exact raises_writeSteamId w index steamId
        · rw [hman] at hm
          exact (congrArg Prod.fst (held_setSyntheticSid _ index steamId) : _).symm.trans hm

/-- A call that is not spared leaves a managed slot without the flag. -/
theorem not_seenAsBots_bhSetSteamId (h : w.Guarded) {slot : Int} {incarnation steamId : UInt64}
    {alloc : Bool} (hbad : ¬ w.SparesCall slot incarnation steamId alloc) :
    ¬ (w.bhSetSteamId slot incarnation steamId alloc).1.SeenAsBots := by
  unfold SparesCall at hbad
  push Not at hbad
  obtain ⟨ha, index, htarget, hsid, halloc, havail, k, hk, hlive⟩ := hbad
  have hb : w.bhSetSteamId slot incarnation steamId alloc =
      w.applySteamIdCommand index steamId := by
    unfold bhSetSteamId
    rw [htarget, halloc]
    dsimp only
    rw [if_neg (by simp [hsid])]
  have hconf := confined_applySteamIdCommand w index steamId
  rw [hb]
  rcases applySteamIdCommand_cases w index steamId with ⟨-, hc | hn⟩ | ⟨-, -, hman, -, hctl⟩
  · unfold controllerAt at hk
    rw [hc] at hk
    cases hk
  · exact absurd havail hn
  · intro hseen
    have hd : w.isDisguiseEnabled = true := by simp [isDisguiseEnabled, h.mode ha]
    rw [hk, hd, Option.map_some, if_pos rfl] at hctl
    have hm : (w.applySteamIdCommand index steamId).1.manager.isManaged index = true := by
      rw [hman]
      exact (congrArg Prod.fst (held_setSyntheticSid _ index steamId) : _).trans
        (managed_of_target htarget).1
    have hfl := hseen ((active_of_hooks hconf.hooks).trans ha) index _ hm hctl
      (Bool.eq_false_iff.mpr hlive)
    rw [Entity.fakeClient_withFakeClient] at hfl
    cases hfl

theorem seenAsBots_of_face (hf : w'.face = w.face) (h : w.SeenAsBots) : w'.SeenAsBots :=
  fun ha => bots_of_face hf (h ((active_of_hooks (hooks_of_face hf)).symm.trans ha))

/-! ## Frames -/

/-- A hook whose frame is the newest takes it off the list. -/
theorem back_newest {own : Frame → Bool} (h : w.newest own = true) :
    ∃ f older, w.hooks.frames = f :: older ∧ own f = true ∧ w.hooks.back own = some f ∧
      (w.hooks.pop own).frames = older := by
  unfold newest at h
  cases hframes : w.hooks.frames with
  | nil =>
    rw [hframes] at h
    cases h
  | cons f older =>
    rw [hframes] at h
    have hf : own f = true := h
    refine ⟨f, older, rfl, hf, ?_, ?_⟩
    · unfold IdentityHooks.back
      rw [hframes, List.find?_cons_of_pos hf]
    · unfold IdentityHooks.pop
      rw [hframes]
      exact List.eraseP_cons_of_pos hf

theorem exists_population {hook : PopulationHook} {f : Frame}
    (h : Frame.isPopulation hook f = true) : ∃ hook' enabled, f = .population hook' enabled := by
  cases f <;> first | exact ⟨_, _, rfl⟩ | cases h

theorem exists_scoped {hook : ScopedHook} {f : Frame} (h : Frame.isScoped hook f = true) :
    ∃ hook' snapshot, f = .scoped hook' snapshot := by
  cases f <;> first | exact ⟨_, _, rfl⟩ | cases h

/-- Outside transactions only the frame list is left. -/
theorem guarded_of_closed {h : IdentityHooks} (hhooks : w.hooks = h)
    (hdepth : h.populationTransactionDepth = 0) (hcount : h.frames.countP Frame.enabled = 0)
    (hinner : Inner h.frames) : w.Guarded := by
  have hclosed : w.populationTransactionActive = true → False := fun ha =>
    bne_iff_ne.mp ha ((congrArg _ hhooks).trans hdepth)
  subst hhooks
  exact ⟨hdepth.trans hcount.symm, fun ha => (hclosed ha).elim, hinner, fun ha => (hclosed ha).elim⟩

theorem guarded_beginPopulationFrame (h : w.Guarded) (hook : PopulationHook) {enabled : Bool}
    (hen : enabled = true → w.isDisguiseEnabled = true) :
    (w.beginPopulationFrame hook enabled).Guarded := by
  have hinner : Inner (Frame.population hook enabled :: w.hooks.frames) :=
    ⟨fun _ _ hs => absurd hs (Option.some_ne_none _).symm, h.inner⟩
  cases enabled with
  | false =>
    exact ⟨h.depth.trans (List.countP_cons_of_neg Bool.false_ne_true).symm, h.mode, hinner, h.bots⟩
  | true =>
    have hmode : w.plugin.identityMode = .player := by simpa [isDisguiseEnabled] using hen rfl
    have hcount : (Frame.population hook true :: w.hooks.frames).countP Frame.enabled =
        w.hooks.populationTransactionDepth + 1 := by
      rw [List.countP_cons_of_pos (by rfl), h.depth]
    by_cases hd : w.hooks.populationTransactionDepth = 0
    · rw [beginPopulationFrame_first hd]
      rw [hd] at hcount
      exact ⟨hcount.symm, fun _ => hmode, hinner, fun _ => bots_capture w.manager w.engine⟩
    · rw [beginPopulationFrame_inner hd]
      exact ⟨hcount.symm, fun _ => hmode, hinner, fun _ => h.bots (bne_iff_ne.mpr hd)⟩

/-- Closing a population frame ends the transaction or changes no flag. -/
theorem guarded_endPopulationFrame (h : w.Guarded) {hook : PopulationHook}
    (hnew : w.newest (Frame.isPopulation hook) = true) (redisguise : Bool) :
    (w.endPopulationFrame hook redisguise).Guarded := by
  obtain ⟨f, older, hframes, hown, hback, hpop⟩ := back_newest hnew
  have hdepth := h.depth
  have hinner := h.inner
  rw [hframes] at hdepth hinner
  obtain ⟨hook', enabled, rfl⟩ := exists_population hown
  unfold endPopulationFrame
  rw [hback]
  dsimp only
  rw [← hpop] at hdepth hinner
  cases enabled with
  | false =>
    rw [List.countP_cons_of_neg Bool.false_ne_true] at hdepth
    exact ⟨hdepth, h.mode, hinner.2, h.bots⟩
  | true =>
    rw [List.countP_cons_of_pos (by rfl)] at hdepth
    have hd : w.hooks.populationTransactionDepth ≠ 0 := by omega
    have ha : w.populationTransactionActive = true := bne_iff_ne.mpr hd
    have hdepth' : w.hooks.populationTransactionDepth - 1 =
        (w.hooks.pop (Frame.isPopulation hook)).frames.countP Frame.enabled := by omega
    unfold endPopulationTransaction
    simp only [if_true]
    rw [if_neg (show ¬ (w.hooks.pop (Frame.isPopulation hook)).populationTransactionDepth = 0
      from hd)]
    split
    · exact ⟨hdepth', fun _ => h.mode ha, hinner.2, fun _ => h.bots ha⟩
    · rename_i hd'
      rw [show w.hooks.populationTransactionDepth - 1 = 0 from not_not.mp hd'] at hdepth'
      split
      · exact guarded_of_closed (hooks_destroy _ _) rfl hdepth'.symm hinner.2
      · exact guarded_of_closed (hooks_destroy _ _) rfl hdepth'.symm hinner.2

theorem guarded_beginScopedFrame (h : w.Guarded) (hook : ScopedHook) :
    (w.beginScopedFrame hook).Guarded := by
  have hdepth : ∀ snapshot, w.hooks.populationTransactionDepth =
      (Frame.scoped hook snapshot :: w.hooks.frames).countP Frame.enabled := fun _ =>
    h.depth.trans (List.countP_cons_of_neg Bool.false_ne_true).symm
  unfold beginScopedFrame
  split
  · refine ⟨hdepth _, h.mode, ⟨fun hn snapshots hs s => ?_, h.inner⟩, fun _ =>
      bots_capture w.manager w.engine⟩
    obtain rfl := Option.some.inj hs
    rw [← h.depth] at hn
    exact unmarked_capture (h.bots (bne_iff_ne.mpr hn)) s
  · exact ⟨hdepth _, h.mode, ⟨fun _ _ hs => absurd hs (Option.some_ne_none _).symm, h.inner⟩, h.bots⟩

/-- Closing a frame nested in a transaction clears no flag. -/
theorem guarded_endScopedFrame (h : w.Guarded) {hook : ScopedHook}
    (hnew : w.newest (Frame.isScoped hook) = true) : (w.endScopedFrame hook).Guarded := by
  obtain ⟨f, older, hframes, hown, hback, hpop⟩ := back_newest hnew
  have hdepth := h.depth
  have hinner := h.inner
  rw [hframes] at hdepth hinner
  obtain ⟨hook', snapshot, rfl⟩ := exists_scoped hown
  rw [List.countP_cons_of_neg Bool.false_ne_true] at hdepth
  unfold endScopedFrame
  rw [hback]
  dsimp only
  cases snapshot with
  | none =>
    rw [← hpop] at hdepth hinner
    exact ⟨hdepth, h.mode, hinner.2, h.bots⟩
  | some snapshots =>
    refine ⟨hpop ▸ hdepth, h.mode, hpop ▸ hinner.2, fun ha => ?_⟩
    have hn : older.countP Frame.enabled ≠ 0 := hdepth ▸ bne_iff_ne.mp ha
    exact (raises_restore w.manager (hinner.1 hn snapshots rfl) w.engine).bots (h.bots ha)
      fun _ hm => hm

/-! ## Modes -/

/-- A mode is put on outside transactions only. -/
theorem guarded_of_moded (h : w.Guarded) (hw : w.Moded w')
    (hmode : w.populationTransactionActive = true →
      w'.plugin.identityMode = w.plugin.identityMode) : w'.Guarded := by
  obtain ⟨v, hv, rfl | ⟨mode, rfl⟩⟩ := hw
  · exact h.of_face hv
  · have hvg := h.of_face hv
    have hva := active_of_hooks (hooks_of_face hv)
    unfold commitIdentityMode at hmode ⊢
    dsimp only at hmode ⊢
    split
    · exact hvg.of_face rfl
    · rename_i hne
      rw [if_neg hne] at hmode
      -- a changed mode means that no transaction is active
      have hclosed : v.populationTransactionActive = true → False := fun ha =>
        hne ((hmode (hva.symm.trans ha)).trans (mode_of_face hv).symm).symm
      exact hvg.of_hooks rfl (fun ha => (hclosed ha).elim) fun ha => (hclosed ha).elim

/-! ## Runs -/

/-- **Step lemma.** Every event that spares the transaction keeps the invariant. -/
theorem guarded_step (hl : w.plugin.loaded = true) (h : w.Guarded) {e : Event}
    (hok : KeepsTransaction w e) (hspare : SparesTransaction w e) : (w.step e).Guarded := by
  obtain ⟨hkeeps, hmode⟩ := hok
  cases e with
  | engine e =>
    refine h.of_hooks rfl (fun _ => rfl) fun _ _ hb s k' hm hk' hlive' => ?_
    -- a clear flag would have been clear before the engine ran, against `hb`
    by_contra hfl
    obtain ⟨k, hk, hlive, hclear⟩ := hkeeps s k' hm hk' hlive' (Bool.eq_false_iff.mpr hfl)
    rw [hb s k hm hk hlive] at hclear
    cases hclear
  | clientConnected slot name networkId fakePlayer now =>
    rcases connected_cases w slot name networkId fakePlayer now with
      hw | ⟨index, _, -, -, -, -, hw⟩
    · rw [World.step, hw]
      exact h
    · rw [World.step, hw]
      exact guarded_adoptClient h index name now
  | clientPutInServer call slot name =>
    rcases slotOf_cases slot with hn | ⟨index, hi⟩
    · rw [World.step, hookClientPutInServerPost_of_none hn]
      exact h
    · exact guarded_hookClientPutInServerPost h call hi name
  | clientDisconnect slot targeted =>
    rcases slotOf_cases slot with hn | ⟨index, hi⟩
    · rw [World.step, hookClientDisconnectPre_of_none hn]
      exact h
    · exact guarded_hookClientDisconnectPre h hi targeted
  | quotaPre => exact guarded_beginPopulationFrame h _ id
  | quotaPost => exact guarded_endPopulationFrame h hkeeps _
  | humanTeamPre => exact guarded_beginPopulationFrame h _ id
  | humanTeamPost => exact guarded_endPopulationFrame h hkeeps _
  | joinTeamPre => exact guarded_beginPopulationFrame h _ fun hen => (Bool.and_eq_true_iff.mp hen).1
  | joinTeamPost => exact guarded_endPopulationFrame h hkeeps _
  | endMatchPre => exact guarded_beginPopulationFrame h _ fun hen => (Bool.and_eq_true_iff.mp hen).1
  | endMatchPost => exact guarded_endPopulationFrame h hkeeps _
  | votersPre => exact guarded_beginScopedFrame h _
  | votersPost => exact guarded_endScopedFrame h hkeeps
  | scriptIsBotPre => exact guarded_beginScopedFrame h _
  | scriptIsBotPost => exact guarded_endScopedFrame h hkeeps
  | dispatchPre command botKick =>
    obtain ⟨enabled, v, hw, hface, hen⟩ := dispatchPre_cases w command botKick
    rw [World.step, hw]
    refine guarded_beginPopulationFrame (h.of_face hface) _ fun he => ?_
    unfold isDisguiseEnabled
    rw [mode_of_face hface]
    exact hen he
  | dispatchPost => exact guarded_endPopulationFrame h hkeeps _
  | drainControllerRemovals =>
    have hmarks := marks_drainPendingControllerRemovals w
    refine h.of_hooks hmarks.hooks (fun _ => by rw [World.step, hmarks.plugin]) fun _ _ hb =>
      (raises_drainPendingControllerRemovals w).bots hb fun s hm => ?_
    rwa [World.step, hmarks.manager] at hm
  | releaseHltv call slot => exact guarded_releaseManagedHltvSlot h call slot
  | startChangeLevel env =>
    -- nobody is left managed, so no flag is asked for
    exact h.of_hooks rfl (fun _ => rfl) fun _ _ _ =>
      bots_of_unmanaged (unmanaged_hookStartChangeLevelPre w env) _
  | levelInit gate => exact guarded_of_moded h (moded_onLevelInit w gate) hmode
  | levelShutdown env =>
    exact h.of_hooks rfl hmode fun _ _ _ => bots_of_unmanaged (unmanaged_onLevelShutdown w env) _
  | unload env removed now =>
    rw [World.step, unload_of_loaded hl]
    exact h
  | bhSetSteamId => exact guarded_bhSetSteamId h hspare
  | bhSetName => exact guarded_bhSetName h _ _ _ _ _
  | bhSetMode gate mode => exact guarded_of_moded h (moded_bhSetMode w gate mode) hmode
  | setBotSteamId slot steamId64 alloc =>
    rcases setBotSteamId_cases w slot steamId64 alloc with ⟨s, hs, hn⟩ | ⟨-, hw⟩
    · -- the native call is the Metamod one with the incarnation filled in
      exact (guarded_bhSetSteamId h (hspare s hs)).of_face (face_of_native hn)
    · rw [World.step, hw]
      exact h
  | setPersonaName call slot normalized =>
    rcases setPersonaName_cases w call slot normalized with ⟨incarnation, hn⟩ | hw
    · exact (guarded_bhSetName h call slot incarnation _ _).of_face (face_of_native hn)
    · rw [World.step, hw]
      exact h
  -- the avatar and bridge events touch neither clients nor controllers
  | _ => exact h.of_face (face_step w rfl)

/-- An event that does not spare the transaction leaves a slot without the flag. -/
theorem not_seenAsBots_step (h : w.Guarded) {e : Event} (hbad : ¬ SparesTransaction w e) :
    ¬ (w.step e).SeenAsBots := by
  cases e with
  | bhSetSteamId => exact not_seenAsBots_bhSetSteamId h hbad
  | setBotSteamId slot steamId64 alloc =>
    unfold SparesTransaction at hbad
    push Not at hbad
    obtain ⟨s, hs, hcall⟩ := hbad
    rcases setBotSteamId_cases w slot steamId64 alloc with ⟨s', hs', hn⟩ | ⟨hnone, -⟩
    · rw [hs] at hs'
      obtain rfl := Option.some.inj hs'
      exact fun hseen => not_seenAsBots_bhSetSteamId h hcall
        (seenAsBots_of_face (face_of_native hn).symm hseen)
    · rw [hs] at hnone
      cases hnone
  | _ => exact absurd trivial hbad

theorem hooks_load (env : LoadEnv) : (World.load env).hooks = {} :=
  load_invariant (I := fun w => w.hooks = {}) env (engine_hooks_loading env).2
    (fun w s hw _ => (confined_adoptExistingBot w _ _ s).hooks.trans hw) fun _ hw => hw

theorem guarded_load (env : LoadEnv) : (World.load env).Guarded :=
  guarded_of_closed (hooks_load env) rfl rfl trivial

/-- **Bots in a transaction.** The engine does not clear `FL_FAKECLIENT`, hook calls nest,
and the mode does not change in a transaction. Then in every state along a run each managed
slot's controller has the flag while a transaction is active, if and only if no SteamID
call goes through in an active transaction for a slot with a controller. -/
theorem bots_in_transaction (env : LoadEnv) (es : List Event)
    (h : Runs.Admits World.step KeepsTransaction (World.load env) es) :
    (∀ pre, pre <+: es → (World.run env pre).SeenAsBots) ↔
      Runs.Admits World.step SparesTransaction (World.load env) es :=
  Runs.forall_prefix_iff_admits (I := fun w => w.Sane ∧ w.Guarded)
    ⟨sane_load env, guarded_load env⟩ (fun _ hw => hw.2.bots)
    (fun _ e hw hok hspare => ⟨hw.1.step e, guarded_step hw.1.loaded hw.2 hok hspare⟩)
    (fun _ _ hw _ hbad => not_seenAsBots_step hw.2 hbad) h

/-- A bot connects before the engine's quota code runs, and another while it does. -/
theorem bots_in_transaction_quota :
    (World.run smallServer [botConnects 0, .quotaPre, botConnects 1]).SeenAsBots :=
  (bots_in_transaction smallServer [botConnects 0, .quotaPre, botConnects 1]
    ⟨⟨trivial, fun _ => by decide +kernel⟩, ⟨trivial, fun _ => by decide +kernel⟩,
      ⟨trivial, fun _ => by decide +kernel⟩, trivial⟩).mpr
    ⟨trivial, trivial, trivial, trivial⟩ _ List.prefix_rfl

/-- A bot is renumbered while the engine's quota code runs. -/
def renumbersInQuota : List Event :=
  [botConnects 0, .bhAttach, .quotaPre, .bhSetSteamId 0 6 42 true]

/-- The SteamID call clears the flag of a bot the engine is counting. -/
theorem renumbered_in_transaction :
    Runs.Admits World.step KeepsTransaction (World.load smallServer) renumbersInQuota ∧
    (World.run smallServer renumbersInQuota).plugin.identityMode = .player ∧
    ¬ (World.run smallServer renumbersInQuota).SeenAsBots := by
  refine ⟨⟨⟨trivial, fun _ => by decide +kernel⟩, ⟨trivial, fun _ => by decide +kernel⟩,
    ⟨trivial, fun _ => by decide +kernel⟩, ⟨trivial, fun _ => by decide +kernel⟩, trivial⟩,
    by decide +kernel, fun hseen => ?_⟩
  -- what the run computes: controller `0` lives and its flag is clear
  have hcleared : ((World.run smallServer renumbersInQuota).engine.controllerAt (0 : Slot)).any
      (fun k => !k.beingDeleted && !k.fakeClient) = true := by decide +kernel
  obtain ⟨k, hk, hlive⟩ := Option.any_eq_true .. |>.mp hcleared
  rw [Bool.and_eq_true, Bool.not_eq_true', Bool.not_eq_true'] at hlive
  have hfl := hseen (by decide +kernel) 0 k (by decide +kernel) hk hlive.1
  rw [hlive.2] at hfl
  cases hfl

end BotHider.Model
