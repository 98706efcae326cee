import BotHider.Disguise.Marks
import BotHider.Model.SlotSpecs
import BotHider.Registry.Runs

/-!
# BotHider — the disguise is consistent between frames

A hook frame makes the managed slots look like bots while it is open: the outermost
population frame with a snapshot and a reapplied disguise at its end, each voter or
script frame with a snapshot of its own.

* `IdentityHooks.Ordered` — what the frame list says of the transaction and of the snapshots.
* `World.Posed` — what a managed slot shows outside transactions: in Bot mode a bot,
  in Player mode a human but for the marks an open snapshot takes off again.
* `disguise_consistent` — so with all frames closed every managed slot shows its mode.
-/

namespace BotHider.Model

open World Engine

variable {w w' : World} {slot : Slot}

/-! ## The invariant -/

/-- The snapshots that open frames hold of a slot, newest first. -/
def IdentityHooks.opens (h : IdentityHooks) (s : Slot) : List BotIdentitySnapshot :=
  h.frames.filterMap fun f => f.snapshot.map fun snapshots => snapshots s

/-- What a client and its controller show in a mode, with these snapshots open. -/
def Shows (mode : IdentityMode) (opens : List BotIdentitySnapshot) (c : Client) (k : Entity) :
    Prop :=
  match mode with
  | .bot => c.LooksBot ∧ k.fakeClient = true
  | .player => Undo.Covered (Mark.Human c k) (opens.map fun snapshot => snapshot.Undoes c k)

/-- The frame list, the transaction and the mode fit together. -/
structure IdentityHooks.Ordered (h : IdentityHooks) (mode : IdentityMode) : Prop where
  depth : h.populationTransactionDepth = h.frames.countP Frame.enabled
  identity : h.populationIdentity = none ↔ h.populationTransactionDepth = 0
  redisguise : h.populationTransactionDepth ≠ 0 → h.populationTransactionRedisguise = true
  mode : ∀ f ∈ h.frames, f.snapshot ≠ none → mode = .player
  humane : ∀ s, ∀ snapshot ∈ h.opens s, snapshot.Humane

/-- A managed slot shows what it should. -/
def World.Posed (w : World) (s : Slot) : Prop :=
  w.manager.isManaged s = true → ∀ c, w.engine.resolveClientBySlot s = some c →
    c.ByteOk ∧ (w.hooks.populationTransactionDepth = 0 → ∀ k,
      w.engine.controllerAt s = some k →
      Shows w.plugin.identityMode (w.hooks.opens s) c k)

/-- The whole invariant. -/
structure World.Consistent (w : World) : Prop where
  ordered : w.hooks.Ordered w.plugin.identityMode
  posed : ∀ s, w.Posed s

/-! ## What the engine promises -/

/-- Every managed slot has a client and a live controller, which is no other client's. -/
structure World.Settled (w : World) : Prop where
  separate : w.engine.SeparateControllers
  resolves : ∀ s, w.manager.isManaged s = true → ∃ c k,
    w.engine.resolveClientBySlot s = some c ∧ w.engine.controllerAt s = some k ∧
      k.beingDeleted = false

theorem settled_iff : w.Settled ↔ w.engine.SeparateControllers ∧
    ∀ s, w.manager.isManaged s = true →
      (w.engine.controllerAt s).any (fun k => !k.beingDeleted) = true := by
  refine ⟨fun h => ⟨h.separate, fun s hm => ?_⟩, fun h => ⟨h.1, fun s hm => ?_⟩⟩
  · obtain ⟨c, k, -, hk, hlive⟩ := h.resolves s hm
    simp [hk, hlive]
  · have hany := h.2 s hm
    cases hk : w.engine.controllerAt s with
    | none =>
      rw [hk] at hany
      cases hany
    | some k =>
      rw [hk] at hany
      obtain ⟨c, hc, -⟩ := Option.bind_eq_some_iff.mp hk
      exact ⟨c, k, hc, rfl, by simpa using hany⟩

instance : Decidable w.Settled := decidable_of_iff _ settled_iff.symm

theorem settled_of_face (h : w.Settled) (hf : w'.face = w.face) : w'.Settled where
  separate := separateControllers_of_face hf h.separate
  resolves s hm := by
    rw [isManaged_of_face hf] at hm
    rw [client_of_face hf, controller_of_face hf]
    exact h.resolves s hm

/-- The client in a slot is as the engine creates a bot. -/
def Engine.BornBot (e : Engine) (s : Nat) : Prop :=
  ∀ c, e.resolveClientBySlot s = some c →
    c.LooksBot ∧ ∀ k, e.controllerAt s = some k → k.fakeClient = true

instance (e : Engine) (s : Nat) : Decidable (e.BornBot s) :=
  inferInstanceAs (Decidable (∀ c ∈ e.resolveClientBySlot s,
    c.LooksBot ∧ ∀ k ∈ e.controllerAt s, k.fakeClient = true))

/-- Every fake-player client is as the engine creates a bot. -/
def Engine.MakesBots (e : Engine) : Prop :=
  ∀ (s : Slot) c, e.resolveClientBySlot s = some c → c.isFakePlayerSet = true → e.BornBot s

instance (e : Engine) : Decidable e.MakesBots :=
  inferInstanceAs (Decidable (∀ s : Slot, ∀ c ∈ e.resolveClientBySlot s,
    c.isFakePlayerSet = true → e.BornBot s))

/-- The engine creates bots with the fake-player flags and `FL_FAKECLIENT` set; it
changes neither them nor who is who in a managed slot. The mode changes only while no
voter or script frame holds a snapshot. -/
def KeepsDisguise (w : World) : Event → Prop
  | .engine e => ∀ (s : Slot) c', w.manager.isManaged s = true →
      e.resolveClientBySlot s = some c' →
      ∃ c, w.engine.resolveClientBySlot s = some c ∧
        c'.addr = c.addr ∧ c'.userId = c.userId ∧ c'.fakePlayer = c.fakePlayer ∧
        c'.connectionFlags.getLsbD 0 = c.connectionFlags.getLsbD 0 ∧
        c'.connectionFlags.getLsbD 3 = c.connectionFlags.getLsbD 3 ∧
        ∀ k', e.controllerAt s = some k' → ∃ k, w.engine.controllerAt s = some k ∧
          k'.addr = k.addr ∧ k'.handle = k.handle ∧ k'.fakeClient = k.fakeClient
  | .clientConnected slot _ _ fakePlayer _ => fakePlayer = true → ∀ index,
      slotOf slot = some index → w.manager.isManaged index = false → w.engine.BornBot index
  | .bhSetMode .. | .levelInit _ | .levelShutdown _ =>
    ∀ f ∈ w.hooks.frames, f.snapshot = none
  | _ => True

/-! ## Shows -/

theorem shows_of_human {opens : List BotIdentitySnapshot} {c : Client} {k : Entity}
    (h : ∀ m, Mark.Human c k m) : Shows .player opens c k := Undo.covered_of_off h

theorem liveController_of_controllerAt {e : Engine} {t : Nat} {k : Entity}
    (h : e.controllerAt t = some k) (hlive : k.beingDeleted = false) : k.LiveController := by
  unfold controllerAt at h
  obtain ⟨c, -, hk⟩ := Option.bind_eq_some_iff.mp h
  exact ⟨((e.resolveController_eq_some).mp hk).2, hlive⟩

theorem liveController_congr {k k' : Entity} (h : k'.identity = k.identity) :
    k'.LiveController ↔ k.LiveController := by
  have hclass : k'.className = k.className := (congrArg Entity.className h : _)
  have hgoing : k'.beingDeleted = k.beingDeleted := (congrArg Entity.beingDeleted h : _)
  unfold Entity.LiveController
  rw [hclass, hgoing]

/-- What a slot shows depends on its marks and on who is in it. -/
theorem Shows.congr {mode : IdentityMode} {opens : List BotIdentitySnapshot} {c c' : Client}
    {k k' : Entity} (h : Shows mode opens c k) (haddr : c'.addr = c.addr)
    (hid : c'.userId = c.userId) (hbyte : c'.fakePlayer = c.fakePlayer)
    (hplayer : c'.connectionFlags.getLsbD 0 = c.connectionFlags.getLsbD 0)
    (hfake : c'.connectionFlags.getLsbD 3 = c.connectionFlags.getLsbD 3)
    (hk : k'.addr = k.addr) (hhandle : k'.handle = k.handle)
    (hfl : k'.fakeClient = k.fakeClient) (hlive : k'.LiveController ↔ k.LiveController) :
    Shows mode opens c' k' := by
  have hhuman : Mark.Human c' k' = Mark.Human c k := by
    funext m
    cases m with
    | byte => exact congrArg (· = 0) hbyte
    | player => exact congrArg (· = true) hplayer
    | fake => exact congrArg (· = false) hfake
    | controller => exact congrArg (· = false) hfl
  have hundoes : (fun snapshot : BotIdentitySnapshot => snapshot.Undoes c' k') =
      fun snapshot => snapshot.Undoes c k :=
    funext fun _ => BotIdentitySnapshot.undoes_congr haddr hid hk hhandle hlive
  cases mode with
  | bot =>
    obtain ⟨⟨h1, h2, h3⟩, h4⟩ := h
    exact ⟨⟨hbyte.trans h1, hfake.trans h2, hplayer.trans h3⟩, hfl.trans h4⟩
  | player =>
    unfold Shows at h ⊢
    dsimp only at h ⊢
    rw [hhuman, hundoes]
    exact h

/-! ## Operations that open or close no frame -/

theorem posed_of_unmanaged (h : w.manager.isManaged slot = false) : w.Posed slot := by
  intro hm
  rw [h] at hm
  cases hm

theorem World.Posed.of_view (h : w.Posed slot) (hhooks : w'.hooks = w.hooks)
    (hmode : w'.plugin.identityMode = w.plugin.identityMode)
    (hm : w'.manager.isManaged slot = w.manager.isManaged slot)
    (hc : w'.engine.resolveClientBySlot slot = w.engine.resolveClientBySlot slot)
    (hk : w'.engine.controllerAt slot = w.engine.controllerAt slot) : w'.Posed slot := by
  unfold Posed
  rw [hhooks, hmode, hm, hc, hk]
  exact h

theorem World.Consistent.of_face (h : w.Consistent) (hf : w'.face = w.face) : w'.Consistent where
  ordered := by
    rw [hooks_of_face hf, mode_of_face hf]
    exact h.ordered
  posed s := (h.posed s).of_view (hooks_of_face hf) (mode_of_face hf) (isManaged_of_face hf s)
    (client_of_face hf s) (controller_of_face hf s)

/-- An operation on one slot has only that slot to account for. -/
theorem World.Consistent.of_confined (h : w.Consistent) (hsep : w.engine.SeparateControllers)
    (hc : Confined slot w w') (hself : w'.Posed slot) : w'.Consistent := by
  have hmode : w'.plugin.identityMode = w.plugin.identityMode := by rw [hc.plugin]
  refine ⟨by rw [hc.hooks, hmode]; exact h.ordered, fun s => ?_⟩
  rcases eq_or_ne s slot with rfl | hs
  · exact hself
  · exact (h.posed s).of_view hc.hooks hmode (hc.isManaged hs) (hc.client hs)
      (hc.controller hsep hs)

/-- Writing the mode's marks on a slot poses it: in Player mode the client is disguised
and its controller's flag is off outside a transaction, in Bot mode both are left as the
bot they were. -/
theorem posed_of_written (hhooks : w'.hooks = w.hooks)
    (hmode : w'.plugin.identityMode = w.plugin.identityMode)
    (hclient : ∀ c', w'.engine.resolveClientBySlot slot = some c' →
      ∃ c, w.engine.resolveClientBySlot slot = some c ∧
        c'.fakePlayer = (if w.isDisguiseEnabled then c.clearFakePlayer else c).fakePlayer ∧
        c'.connectionFlags =
          (if w.isDisguiseEnabled then c.clearFakePlayer else c).connectionFlags)
    {b : Bool} (hfake : w.hooks.populationTransactionDepth = 0 → b = false)
    (hctl : w'.engine.controllerAt slot = (w.engine.controllerAt slot).map fun k =>
      if w.isDisguiseEnabled then k.withFakeClient b else k)
    (hbot : w.plugin.identityMode = .bot → ∀ c, w.engine.resolveClientBySlot slot = some c →
      c.ByteOk ∧ (w.hooks.populationTransactionDepth = 0 → ∀ k,
        w.engine.controllerAt slot = some k → c.LooksBot ∧ k.fakeClient = true)) :
    w'.Posed slot := by
  intro _ c' hc'
  obtain ⟨c, hc, hbyte, hflags⟩ := hclient c' hc'
  rw [hhooks, hmode, hctl]
  unfold isDisguiseEnabled at hbyte hflags ⊢
  cases hm : w.plugin.identityMode with
  | player =>
    rw [hm] at hbyte hflags
    change c'.fakePlayer = 0 at hbyte
    change c'.connectionFlags = c.clearFakePlayer.connectionFlags at hflags
    refine ⟨Or.inl hbyte, fun hd k' hk' => shows_of_human ?_⟩
    obtain ⟨k, -, rfl⟩ := Option.map_eq_some_iff.mp hk'
    obtain ⟨-, h1, h2⟩ := Client.looksHuman_clearFakePlayer c
    refine (human_iff _ _).mpr ⟨⟨hbyte, hflags ▸ h1, hflags ▸ h2⟩, ?_⟩
    rw [hfake hd]
    exact Entity.fakeClient_withFakeClient false k
  | bot =>
    rw [hm] at hbyte hflags
    change c'.fakePlayer = c.fakePlayer at hbyte
    change c'.connectionFlags = c.connectionFlags at hflags
    obtain ⟨hok, hlooks⟩ := hbot hm c hc
    refine ⟨?_, fun hd k' hk' => ?_⟩
    · unfold Client.ByteOk
      rw [hbyte]
      exact hok
    · obtain ⟨k, hk, rfl⟩ := Option.map_eq_some_iff.mp hk'
      obtain ⟨⟨h1, h2, h3⟩, h4⟩ := hlooks hd k hk
      exact ⟨⟨hbyte.trans h1, hflags ▸ h2, hflags ▸ h3⟩, h4⟩

/-- A posed managed slot shows a bot in Bot mode. -/
theorem World.Posed.bot (h : w.Posed slot) (hm : w.manager.isManaged slot = true)
    (hmode : w.plugin.identityMode = .bot) {c : Client}
    (hc : w.engine.resolveClientBySlot slot = some c) :
    c.ByteOk ∧ (w.hooks.populationTransactionDepth = 0 → ∀ k,
      w.engine.controllerAt slot = some k → c.LooksBot ∧ k.fakeClient = true) := by
  obtain ⟨hok, hshows⟩ := h hm c hc
  rw [hmode] at hshows
  exact ⟨hok, hshows⟩

theorem populationTransactionActive_of_closed (h : w.hooks.populationTransactionDepth = 0) :
    w.populationTransactionActive = false := by
  unfold populationTransactionActive
  rw [h]
  rfl

theorem consistent_adoptClient (h : w.Consistent) (hsep : w.engine.SeparateControllers)
    (hborn : w.engine.BornBot slot) (name : Option Bytes) (now : UInt64) :
    (w.adoptClient slot name now).1.Consistent := by
  have hconf := confined_adoptClient w slot name now
  refine h.of_confined hsep hconf ?_
  rcases adoptClient_cases w slot name now with hw | ⟨_, pick, entry, -, -, -, -, hw⟩
  · rw [hw]
    exact h.posed slot
  · have hmode : (w.adoptClient slot name now).1.plugin.identityMode = w.plugin.identityMode := by
      rw [hconf.plugin]
    refine posed_of_written hconf.hooks hmode (fun c' hc' => ?_)
      (b := w.populationTransactionActive) populationTransactionActive_of_closed ?_
      fun _ c hc => ?_
    · rw [hw, client_adoptEntry] at hc'
      obtain ⟨c, hc, rfl⟩ := Option.map_eq_some_iff.mp hc'
      refine ⟨c, hc, ?_⟩
      change (if w.isDisguiseEnabled then _ else _ : Client).fakePlayer = _ ∧
        (if w.isDisguiseEnabled then _ else _ : Client).connectionFlags = _
      cases w.isDisguiseEnabled <;> exact ⟨rfl, rfl⟩
    · rw [hw, controller_adoptEntry]
      rfl
    · obtain ⟨hbot, hfl⟩ := hborn c hc
      exact ⟨Or.inr hbot.1, fun _ k hk => ⟨hbot, hfl k hk⟩⟩

/-- A renamed client shows what it did. -/
theorem consistent_applyClientName (h : w.Consistent) (hsep : w.engine.SeparateControllers)
    (call : SetNameCall) (name : Bytes) : (w.applyClientName call slot name).1.Consistent := by
  have hconf := confined_applyClientName w call slot name
  have hmode : (w.applyClientName call slot name).1.plugin.identityMode =
      w.plugin.identityMode := by rw [hconf.plugin]
  refine h.of_confined hsep hconf fun hm c' hc' => ?_
  obtain ⟨f, hf, hres⟩ := client_applyClientName w call slot name
  rw [hres] at hc'
  obtain ⟨c, hc, rfl⟩ := Option.map_eq_some_iff.mp hc'
  obtain ⟨new, hname⟩ := hf c
  have hm' : w.manager.isManaged slot = true :=
    (congrArg (fun f => (f slot).1) (held_applyClientName w call slot name) : _).symm.trans hm
  rw [hconf.hooks, hmode, controller_applyClientName, hname]
  obtain ⟨hok, hshows⟩ := h.posed slot hm' c hc
  exact ⟨hok, fun hd k hk => (hshows hd k hk).congr rfl rfl rfl rfl rfl rfl rfl rfl Iff.rfl⟩

theorem consistent_hookClientPutInServerPost (h : w.Consistent)
    (hsep : w.engine.SeparateControllers) (call : SetNameCall) {slot : Int} {index : Slot}
    (hi : slotOf slot = some index) (name : Option Bytes) :
    (w.hookClientPutInServerPost call slot name).Consistent := by
  have hconf := confined_hookClientPutInServerPost w call hi name
  have hmode : (w.hookClientPutInServerPost call slot name).plugin.identityMode =
      w.plugin.identityMode := by rw [hconf.plugin]
  rcases putInServer_cases w call hi name with
    hw | ⟨hm, client, hc, ⟨hltv, hw⟩ | ⟨-, hw⟩ | ⟨-, hw⟩⟩
  · rw [hw]
    exact h
  · rcases hltv_cases w call index with hw' | ⟨_, -, -, -, -, hu, -⟩
    · rw [hw, hw']
      exact h
    · refine h.of_confined hsep hconf (posed_of_unmanaged ?_)
      rw [hw]
      exact hu
  · refine h.of_confined hsep hconf (posed_of_unmanaged ?_)
    rw [hw]
    exact isManaged_releaseSlot _ index
  · refine h.of_confined hsep hconf (posed_of_written hconf.hooks hmode (fun c' hc' => ?_)
      (b := w.populationTransactionActive) populationTransactionActive_of_closed ?_
      fun hbot c hc => (h.posed index).bot hm hbot hc)
    · obtain ⟨f, hf, hres⟩ := client_reapplyIdentity w call index name
      rw [hw, hres] at hc'
      obtain ⟨c, hc, rfl⟩ := Option.map_eq_some_iff.mp hc'
      obtain ⟨new, hname⟩ := hf ((if w.isDisguiseEnabled then c.clearFakePlayer else c).writeSteamId
        (w.manager.getSyntheticSid index))
      rw [hname]
      exact ⟨c, hc, rfl, rfl⟩
    · rw [hw, controller_reapplyIdentity]

theorem consistent_hookClientDisconnectPre (h : w.Consistent)
    (hsep : w.engine.SeparateControllers) {slot : Int} {index : Slot}
    (hi : slotOf slot = some index) (targeted : Bool) :
    (w.hookClientDisconnectPre slot targeted).Consistent := by
  have hconf := confined_hookClientDisconnectPre w hi targeted
  rcases disconnect_cases w hi targeted with ⟨-, hw⟩ | ⟨-, -, hw⟩ | ⟨-, -, hw⟩
  · rw [hw]
    exact h
  · refine h.of_confined hsep hconf (posed_of_unmanaged ?_)
    rw [hw]
    exact isManaged_releaseSlot _ index
  · exact h.of_confined hsep hconf (posed_of_unmanaged
      ((isManaged_of_face hw index).trans (isManaged_releaseSlot _ index)))

theorem consistent_releaseManagedHltvSlot (h : w.Consistent)
    (hsep : w.engine.SeparateControllers) (call : SetNameCall) (slot : Slot) :
    (w.releaseManagedHltvSlot call slot).1.Consistent := by
  rcases hltv_cases w call slot with hw | ⟨_, -, -, -, -, hu, -⟩
  · rw [hw]
    exact h
  · exact h.of_confined hsep (confined_releaseManagedHltvSlot w call slot) (posed_of_unmanaged hu)

theorem consistent_bhSetSteamId (h : w.Consistent) (hsep : w.engine.SeparateControllers)
    (slot : Int) (incarnation steamId : UInt64) (alloc : Bool) :
    (w.bhSetSteamId slot incarnation steamId alloc).1.Consistent := by
  rcases bhSetSteamId_cases w slot incarnation steamId alloc with ⟨index, htarget, hb⟩ | hb
  · rw [hb]
    rcases applySteamIdCommand_cases w index steamId with ⟨hw, -⟩ | ⟨-, -, -, hcl, hctl⟩
    · rw [hw]
      exact h
    · have hconf := confined_applySteamIdCommand w index steamId
      have hmode : (w.applySteamIdCommand index steamId).1.plugin.identityMode =
          w.plugin.identityMode := by rw [hconf.plugin]
      refine h.of_confined hsep hconf (posed_of_written hconf.hooks hmode (fun c' hc' => ?_)
        (fun _ => rfl) hctl
        fun hbot c hc => (h.posed index).bot (managed_of_target htarget).1 hbot hc)
      rw [hcl] at hc'
      obtain ⟨c, hc, rfl⟩ := Option.map_eq_some_iff.mp hc'
      exact ⟨c, hc, rfl, rfl⟩
  · rw [hb]
    exact h

theorem consistent_bhSetName (h : w.Consistent) (hsep : w.engine.SeparateControllers)
    (call : SetNameCall) (slot : Int) (incarnation : UInt64) (name : Option Bytes)
    (length : Int) : (w.bhSetName call slot incarnation name length).1.Consistent := by
  unfold bhSetName
  split
  · exact h
  · split
    · exact h
    · split
      · exact h
      · unfold applyPersonaNameCommand
        split
        · exact h
        · exact consistent_applyClientName h hsep call _

/-! ## The frame list -/

/-- The newest frame of a hook, taken out of the list. -/
theorem back_pop {h : IdentityHooks} {own : Frame → Bool} {f : Frame}
    (hb : h.back own = some f) :
    ∃ newer older, h.frames = newer ++ f :: older ∧ (h.pop own).frames = newer ++ older ∧
      own f = true := by
  obtain ⟨hf, newer, older, hl, hnewer⟩ := List.find?_eq_some_iff_append.mp hb
  refine ⟨newer, older, hl, ?_, hf⟩
  unfold IdentityHooks.pop
  dsimp only
  rw [hl, List.eraseP_append_right _ (by simpa using hnewer), List.eraseP_cons_of_pos hf]

theorem opens_of_frames {h : IdentityHooks} {newer older : List Frame} {f : Frame} (s : Slot)
    (hframes : h.frames = newer ++ f :: older) :
    h.opens s = newer.filterMap (fun f => f.snapshot.map fun snapshots => snapshots s) ++
      ((f.snapshot.map fun snapshots => snapshots s).toList ++
        older.filterMap fun f => f.snapshot.map fun snapshots => snapshots s) := by
  unfold IdentityHooks.opens
  rw [hframes, List.filterMap_append, List.filterMap_cons]
  cases f.snapshot <;> rfl

/-- A frame without a snapshot leaves the open snapshots as they are. -/
theorem opens_pop {h h' : IdentityHooks} {newer older : List Frame} {f : Frame} (s : Slot)
    (hframes : h.frames = newer ++ f :: older) (hpop : h'.frames = newer ++ older)
    (hf : f.snapshot = none) : h'.opens s = h.opens s := by
  rw [opens_of_frames s hframes, hf]
  unfold IdentityHooks.opens
  rw [hpop, List.filterMap_append]
  rfl

theorem World.Posed.of_opens (h : w.Posed slot) (hmode : w'.plugin.identityMode =
    w.plugin.identityMode) (hm : w'.manager.isManaged slot = w.manager.isManaged slot)
    (hengine : w'.engine = w.engine) (hopens : w'.hooks.opens slot = w.hooks.opens slot)
    (hdepth : w'.hooks.populationTransactionDepth = 0 →
      w.hooks.populationTransactionDepth = 0) : w'.Posed slot := by
  intro hm' c hc
  rw [hm] at hm'
  rw [hengine] at hc ⊢
  rw [hmode, hopens]
  obtain ⟨hok, hshows⟩ := h hm' c hc
  exact ⟨hok, fun hd => hshows (hdepth hd)⟩

/-! ## Applying the mode -/

/-- Reapplying the mode poses every slot. -/
theorem posed_reapplyDisguise (hsep : w.engine.SeparateControllers) (s : Slot) :
    w.reapplyDisguise.Posed s := by
  intro hm c' hc'
  change w.manager.isManaged s = true at hm
  change (applyManagedDisguise w.manager w.isDisguiseEnabled w.engine).resolveClientBySlot s =
    some c' at hc'
  cases hc : w.engine.resolveClientBySlot s with
  | none =>
    rw [client_applyManagedDisguise_of_not _ (Or.inr hc), hc] at hc'
    cases hc'
  | some c =>
    have hctl := controllerAt_applyManagedDisguise w.isDisguiseEnabled hsep hm hc
    rw [client_applyManagedDisguise _ hm hc] at hc'
    obtain rfl := Option.some.inj hc'
    change Client.ByteOk _ ∧ (_ → ∀ k,
      (applyManagedDisguise w.manager w.isDisguiseEnabled w.engine).controllerAt s = some k →
        Shows w.plugin.identityMode _ _ k)
    rw [hctl]
    unfold isDisguiseEnabled disguisedClient
    cases w.plugin.identityMode with
    | player =>
      -- both branches of the client write leave a human's byte and flags
      have hlooks := Client.looksHuman_clearFakePlayer c
      refine ⟨Or.inl ?_, fun _ k' hk' => shows_of_human ((human_iff _ _).mpr ⟨?_, ?_⟩)⟩
      · dsimp only
        split <;> exact hlooks.1
      · dsimp only
        split <;> exact hlooks
      · obtain ⟨k, -, rfl⟩ := Option.map_eq_some_iff.mp hk'
        exact Entity.fakeClient_withFakeClient false k
    | bot =>
      -- and here a bot's, with the flag on the controller
      have hlooks := Client.looksBot_setFakePlayer c
      refine ⟨Or.inr ?_, fun _ k' hk' => ⟨?_, ?_⟩⟩
      · dsimp only
        split <;> exact hlooks.1
      · dsimp only
        split <;> exact hlooks
      · obtain ⟨k, -, rfl⟩ := Option.map_eq_some_iff.mp hk'
        exact Entity.fakeClient_withFakeClient true k

/-! ## Population frames -/

/-- What a capture leaves of a managed slot, and what its snapshot remembers. -/
theorem capture_posed (h : ∀ s, w.Posed s) (hset : w.Settled) (s : Slot) :
    ((capture w.manager w.engine).2 s).Humane ∧
      (w.manager.isManaged s = true → ∀ c',
        (capture w.manager w.engine).1.resolveClientBySlot s = some c' → c'.ByteOk) := by
  cases hm : w.manager.isManaged s with
  | false =>
    rw [(capture_of_unmanaged hset.separate hm).2.2]
    exact ⟨BotIdentitySnapshot.humane_default, fun h => by cases h⟩
  | true =>
    obtain ⟨c, k, hc, hk, hlive⟩ := hset.resolves s hm
    obtain ⟨h1, -, h3⟩ := capture_of_managed hset.separate hm hc hk hlive
    rw [h1, h3]
    refine ⟨BotIdentitySnapshot.humane_captured (h s hm c hc).1 k, fun _ c' hc' => ?_⟩
    rw [← Option.some.inj hc']
    exact Or.inr rfl

theorem consistent_beginPopulationFrame (h : w.Consistent) (hset : w.Settled)
    (hook : PopulationHook) (enabled : Bool) :
    (w.beginPopulationFrame hook enabled).Consistent := by
  have ho := h.ordered
  have hmode : ∀ f ∈ Frame.population hook enabled :: w.hooks.frames, f.snapshot ≠ none →
      w.plugin.identityMode = .player := by
    intro f hf hs
    rcases List.mem_cons.mp hf with rfl | hf
    · exact absurd rfl hs
    · exact ho.mode f hf hs
  cases enabled with
  | false =>
    -- a disabled frame only goes on the list
    refine ⟨⟨?_, ho.identity, ho.redisguise, hmode, ho.humane⟩, fun s => ?_⟩
    · exact ho.depth.trans (List.countP_cons_of_neg Bool.false_ne_true).symm
    · exact (h.posed s).of_opens rfl rfl rfl rfl id
  | true =>
    have hcount : (Frame.population hook true :: w.hooks.frames).countP Frame.enabled =
        w.hooks.populationTransactionDepth + 1 := by
      rw [List.countP_cons_of_pos (by rfl), ho.depth]
    by_cases hd : w.hooks.populationTransactionDepth = 0
    · -- the first enabled frame captures
      rw [beginPopulationFrame_first hd]
      refine ⟨⟨?_, iff_of_false (Option.some_ne_none _) Nat.one_ne_zero, fun _ => rfl, hmode,
        ho.humane⟩, fun s hm c' hc' => ⟨?_, fun hd' => ?_⟩⟩
      · rw [hd] at hcount
        exact hcount.symm
      · exact (capture_posed h.posed hset s).2 hm c' hc'
      · cases hd'
    · -- an inner one counts
      rw [beginPopulationFrame_inner hd]
      refine ⟨⟨hcount.symm, ?_, fun _ => Bool.or_true _, hmode, ho.humane⟩, fun s => ?_⟩
      · exact iff_of_false (mt ho.identity.mp hd) (Nat.succ_ne_zero _)
      · exact (h.posed s).of_opens rfl rfl rfl rfl fun hn => absurd hn (Nat.succ_ne_zero _)

/-- Taking a frame without a snapshot out of the list, with a depth that fits. -/
theorem ordered_pop {h h' : IdentityHooks} {mode : IdentityMode} {newer older : List Frame}
    {f : Frame} (ho : h.Ordered mode) (hframes : h.frames = newer ++ f :: older)
    (hpop : h'.frames = newer ++ older) (hf : f.snapshot = none)
    (hdepth : h'.populationTransactionDepth + (if f.enabled then 1 else 0) =
      h.populationTransactionDepth)
    (hidentity : h'.populationIdentity = none ↔ h'.populationTransactionDepth = 0)
    (hredisguise : h'.populationTransactionDepth ≠ 0 →
      h'.populationTransactionRedisguise = true) : h'.Ordered mode := by
  refine ⟨?_, hidentity, hredisguise, fun g hg => ho.mode g ?_, fun s => ?_⟩
  · have hcount := ho.depth
    rw [hframes, List.countP_append, List.countP_cons, ← hdepth] at hcount
    rw [hpop, List.countP_append]
    omega
  · rw [hpop] at hg
    rw [hframes]
    rcases List.mem_append.mp hg with hg | hg
    · exact List.mem_append_left _ hg
    · exact List.mem_append_right _ (List.mem_cons_of_mem _ hg)
  · rw [opens_pop s hframes hpop hf]
    exact ho.humane s

theorem separateControllers_destroy (h : w.engine.SeparateControllers)
    (snapshot : Option ScopedBotIdentityRestore) :
    (w.destroy snapshot).engine.SeparateControllers := by
  cases snapshot with
  | none => exact h
  | some snapshots => exact (agree_restore w.manager snapshots w.engine).entityIndex.separateControllers h

theorem consistent_endPopulationFrame (h : w.Consistent) (hsep : w.engine.SeparateControllers)
    (hook : PopulationHook) (redisguise : Bool) :
    (w.endPopulationFrame hook redisguise).Consistent := by
  have ho := h.ordered
  unfold endPopulationFrame
  split
  · rename_i hook' enabled hback
    obtain ⟨newer, older, hframes, hpop, -⟩ := back_pop hback
    have hopens : ∀ s, (w.hooks.pop (Frame.isPopulation hook)).opens s = w.hooks.opens s :=
      fun s => opens_pop s hframes hpop rfl
    cases enabled with
    | false =>
      exact ⟨ordered_pop ho hframes hpop rfl rfl ho.identity ho.redisguise,
        fun s => (h.posed s).of_opens rfl rfl rfl (hopens s) id⟩
    | true =>
      -- the frame taken off was counted in the depth
      have hd : w.hooks.populationTransactionDepth ≠ 0 := by
        rw [ho.depth, hframes, List.countP_append, List.countP_cons_of_pos (by rfl)]
        omega
      unfold endPopulationTransaction
      simp only [if_true]
      rw [if_neg (show ¬ (w.hooks.pop (Frame.isPopulation hook)).populationTransactionDepth = 0
        from hd), show (w.hooks.pop (Frame.isPopulation hook)).populationTransactionRedisguise =
        true from ho.redisguise hd]
      simp only [Bool.true_or, if_true]
      split
      · rename_i hd'
        refine ⟨ordered_pop ho hframes hpop rfl ?_ ?_ fun _ => rfl, fun s =>
          (h.posed s).of_opens rfl rfl rfl (hopens s) fun hn => absurd hn hd'⟩
        · exact Nat.succ_pred_eq_of_ne_zero hd
        · exact iff_of_false (mt ho.identity.mp hd) hd'
      · rename_i hd'
        -- the last frame: the snapshot is restored, and the mode put on over it
        have hd1 : w.hooks.populationTransactionDepth = 1 := by
          have : ¬ w.hooks.populationTransactionDepth - 1 ≠ 0 := hd'
          omega
        refine ⟨?_, posed_reapplyDisguise (separateControllers_destroy ?_ _)⟩
        · change (World.destroy _ _).hooks.Ordered (World.destroy _ _).plugin.identityMode
          rw [hooks_destroy, mode_destroy]
          exact ordered_pop ho hframes hpop rfl hd1.symm (iff_of_true rfl rfl) fun hn => absurd rfl hn
        · exact hsep
  · exact h

/-! ## Scoped frames -/

theorem consistent_beginScopedFrame (h : w.Consistent) (hset : w.Settled) (hook : ScopedHook) :
    (w.beginScopedFrame hook).Consistent := by
  have ho := h.ordered
  unfold beginScopedFrame
  split
  · rename_i hdisguised
    have hplayer : w.plugin.identityMode = .player := by simpa [isDisguiseEnabled] using hdisguised
    refine ⟨⟨?_, ho.identity, ho.redisguise, fun _ _ _ => hplayer, fun s snapshot hs => ?_⟩,
      fun s hm c' hc' => ⟨(capture_posed h.posed hset s).2 hm c' hc', fun hd k' hk' => ?_⟩⟩
    · exact ho.depth.trans (List.countP_cons_of_neg Bool.false_ne_true).symm
    · rcases List.mem_cons.mp hs with rfl | hs
      · exact (capture_posed h.posed hset s).1
      · exact ho.humane s snapshot hs
    · -- the snapshot on top takes off every mark the capture put on
      obtain ⟨c, k, hc, hk, hlive⟩ := hset.resolves s hm
      obtain ⟨h1, h2, h3⟩ := capture_of_managed hset.separate hm hc hk hlive
      change (capture w.manager w.engine).1.resolveClientBySlot s = some c' at hc'
      change (capture w.manager w.engine).1.controllerAt s = some k' at hk'
      rw [h1] at hc'
      rw [h2] at hk'
      obtain rfl := Option.some.inj hc'
      obtain rfl := Option.some.inj hk'
      have hshows := (h.posed s hm c hc).2 hd k hk
      have hlc := liveController_of_controllerAt hk hlive
      change Shows w.plugin.identityMode ((capture w.manager w.engine).2 s :: w.hooks.opens s) _ _
      rw [hplayer] at hshows ⊢
      rw [h3]
      unfold Shows at hshows ⊢
      dsimp only at hshows ⊢
      rw [List.map_cons]
      refine Undo.Covered.push (?_ : Undo.Covered (Mark.Human c k) _) fun m =>
        BotIdentitySnapshot.undoes_captured hlc
      rwa [show (fun snapshot : BotIdentitySnapshot =>
        snapshot.Undoes c.setFakePlayer (k.withFakeClient true)) =
          fun snapshot => snapshot.Undoes c k from funext fun _ =>
            BotIdentitySnapshot.undoes_congr rfl rfl rfl rfl Iff.rfl]
  · -- in bot mode the frame has no snapshot
    refine ⟨⟨?_, ho.identity, ho.redisguise, fun f hf hs => ?_, ho.humane⟩, fun s =>
      (h.posed s).of_opens rfl rfl rfl rfl id⟩
    · exact ho.depth.trans (List.countP_cons_of_neg Bool.false_ne_true).symm
    · rcases List.mem_cons.mp hf with rfl | hf
      · exact absurd rfl hs
      · exact ho.mode f hf hs

/-- Closing a scope takes off what its snapshot noted, and the snapshots still open take
off the rest. -/
theorem shows_restored {opens opens' : List BotIdentitySnapshot} {snapshot : BotIdentitySnapshot}
    {c : Client} {k : Entity} (hsub : ∀ s ∈ opens, s = snapshot ∨ s ∈ opens')
    (hh : snapshot.Humane) (h : Shows .player opens c k) :
    Shows .player opens' (snapshot.restoredClient c) (snapshot.restoredController c k) := by
  have hc := snapshot.identity_restoredClient c
  have hk := snapshot.identity_restoredController c k
  have haddr : (snapshot.restoredClient c).addr = c.addr := (congrArg Client.addr hc : _)
  have hid : (snapshot.restoredClient c).userId = c.userId := (congrArg Client.userId hc : _)
  have hkaddr : (snapshot.restoredController c k).addr = k.addr := (congrArg Entity.addr hk : _)
  have hhandle : (snapshot.restoredController c k).handle = k.handle :=
    (congrArg Entity.handle hk : _)
  unfold Shows at h ⊢
  dsimp only at h ⊢
  rw [show (fun s : BotIdentitySnapshot =>
    s.Undoes (snapshot.restoredClient c) (snapshot.restoredController c k)) =
      fun s => s.Undoes c k from funext fun _ => BotIdentitySnapshot.undoes_congr
        haddr hid hkaddr hhandle (liveController_congr hk)]
  refine h.pop (fun u hu => (?_ : u = snapshot.Undoes c k ∨ _))
    fun m => BotIdentitySnapshot.human_restored hh
  obtain ⟨s, hs, rfl⟩ := List.mem_map.mp hu
  rcases hsub s hs with rfl | hs
  · exact Or.inl rfl
  · exact Or.inr (List.mem_map_of_mem hs)

theorem consistent_endScopedFrame (h : w.Consistent) (hset : w.Settled) (hook : ScopedHook) :
    (w.endScopedFrame hook).Consistent := by
  have ho := h.ordered
  unfold endScopedFrame
  split
  · rename_i hook' snapshot hback
    obtain ⟨newer, older, hframes, hpop, -⟩ := back_pop hback
    cases snapshot with
    | none =>
      exact ⟨ordered_pop ho hframes hpop rfl rfl ho.identity ho.redisguise, fun s =>
        (h.posed s).of_opens rfl rfl rfl (opens_pop s hframes hpop rfl) id⟩
    | some snapshots =>
      have hplayer : w.plugin.identityMode = .player :=
        ho.mode (.scoped hook' (some snapshots))
          (by rw [hframes]; exact List.mem_append_right _ List.mem_cons_self)
          (Option.some_ne_none snapshots)
      -- a snapshot that was open is this one or still open
      have hsub : ∀ s, ∀ snapshot ∈ w.hooks.opens s, snapshot = snapshots s ∨
          snapshot ∈ (w.hooks.pop (Frame.isScoped hook)).opens s := by
        intro s snapshot hs
        rw [opens_of_frames s hframes] at hs
        unfold IdentityHooks.opens
        rw [hpop, List.filterMap_append]
        rcases List.mem_append.mp hs with hs | hs
        · exact Or.inr (List.mem_append_left _ hs)
        · rcases List.mem_append.mp hs with hs | hs
          · exact Or.inl (List.mem_singleton.mp hs)
          · exact Or.inr (List.mem_append_right _ hs)
      have hhumane : ∀ s, (snapshots s).Humane := by
        intro s
        refine ho.humane s _ ?_
        rw [opens_of_frames s hframes]
        exact List.mem_append_right _ (List.mem_append_left _ List.mem_cons_self)
      have hkeep : ∀ g ∈ newer ++ older, g ∈ w.hooks.frames := by
        intro g hg
        rw [hframes]
        rcases List.mem_append.mp hg with hg | hg
        · exact List.mem_append_left _ hg
        · exact List.mem_append_right _ (List.mem_cons_of_mem _ hg)
      refine ⟨⟨?_, ho.identity, ho.redisguise, fun g hg => ho.mode g (hkeep g (hpop ▸ hg)),
        fun s snapshot hs => ho.humane s snapshot ?_⟩, fun s hm c' hc' => ?_⟩
      · have hcount := ho.depth
        rw [hframes, List.countP_append, List.countP_cons_of_neg (by exact Bool.false_ne_true),
          ← List.countP_append, ← hpop] at hcount
        exact hcount
      · obtain ⟨g, hg, hgs⟩ := List.mem_filterMap.mp hs
        exact List.mem_filterMap.mpr ⟨g, hkeep g (hpop ▸ hg), hgs⟩
      · -- what the restore leaves is covered by the snapshots still open
        obtain ⟨c, k, hc, hk, -⟩ := hset.resolves s hm
        obtain ⟨h1, h2⟩ := restore_of_managed (m := w.manager) snapshots hset.separate hm hc hk
        obtain ⟨hok, hshows⟩ := h.posed s hm c hc
        change (restore w.manager snapshots w.engine).resolveClientBySlot s = some c' at hc'
        rw [h1] at hc'
        obtain rfl := Option.some.inj hc'
        refine ⟨BotIdentitySnapshot.byteOk_restoredClient (hhumane s) hok, fun hd k' hk' => ?_⟩
        change (restore w.manager snapshots w.engine).controllerAt s = some k' at hk'
        rw [h2] at hk'
        obtain rfl := Option.some.inj hk'
        rw [hplayer] at hshows
        change Shows w.plugin.identityMode _ _ _
        rw [hplayer]
        exact shows_restored (hsub s) (hhumane s) (hshows hd k hk)
  · exact h

end BotHider.Model
