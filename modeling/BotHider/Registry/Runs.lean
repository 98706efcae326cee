import BotHider.Registry.Refinement

/-!
# BotHider — runs of the plugin are paths of the registry

* `step_path` — every event of a loaded plugin is a path of registry steps.
* `exec_path`, `sane_run` — so is every run, and the registry's invariant holds in
  every world a run reaches.
* `counted_run` — the incarnations handed out are the counter's first values.
-/

namespace BotHider.Model

open World

/-! ## The plugin's setup -/

/-- The plugin's variables but for the name source, and the avatar module. -/
structure Setup where
  plugin : HiderPlugin
  avatar : AvatarOverrides

/-- The setup of a world. -/
def World.setup (w : World) : Setup where
  plugin := { w.plugin with useBotInfoName := false }
  avatar := w.avatar

theorem setup_of_native {w w' : World} (h : w'.native = w.native) :
    w'.setup = w.setup :=
  (congrArg World.setup h : w'.native.setup = w.native.setup)

theorem setup_of_core {w w' : World} (h : w'.core = w.core) : w'.setup = w.setup :=
  (congrArg World.setup h : w'.core.setup = w.core.setup)

theorem setup_of_shell {w w' : World} (h : w'.shell = w.shell) : w'.setup = w.setup :=
  (congrArg World.setup h : w'.shell.setup = w.shell.setup)

theorem Confined.setup {w w' : World} {slot : Slot} (h : Confined slot w w') :
    w'.setup = w.setup := by
  unfold World.setup
  rw [h.plugin, h.avatar]

theorem loaded_of_face {w w' : World} (h : w'.face = w.face) :
    w'.plugin.loaded = w.plugin.loaded := congrArg Face.loaded h

variable {w : World}

/-- A loaded plugin is not unloaded. -/
theorem unload_of_loaded (h : w.plugin.loaded = true) (env : PassEnv) (removed : Bool)
    (now : UInt64) : w.unload env removed now = w := by
  unfold unload
  rw [if_pos h]

theorem World.Moded.loaded {w w' : World} (h : w.Moded w') :
    w'.plugin.loaded = w.plugin.loaded := by
  refine h.rule (P := fun v => v.plugin.loaded = w.plugin.loaded)
    (fun v hv => loaded_of_face hv) fun v mode hv => ?_
  unfold commitIdentityMode
  dsimp only
  split <;> exact hv

/-! ## Steps -/

/-- An operation on the slot of an engine call, when the call's slot is in range. -/
theorem slotOf_cases (slot : Int) : slotOf slot = none ∨ ∃ index, slotOf slot = some index := by
  cases h : slotOf slot with
  | none => exact Or.inl rfl
  | some index => exact Or.inr ⟨index, rfl⟩

theorem hookOnClientConnectedPost_of_none {slot : Int} (h : slotOf slot = none)
    (w : World) (name networkId : Option Bytes) (fakePlayer : Bool) (now : UInt64) :
    w.hookOnClientConnectedPost slot name networkId fakePlayer now = w := by
  unfold hookOnClientConnectedPost
  rw [h]
  split <;> rfl

theorem hookClientPutInServerPost_of_none {slot : Int} (h : slotOf slot = none) (w : World)
    (call : SetNameCall) (name : Option Bytes) :
    w.hookClientPutInServerPost call slot name = w := by
  unfold hookClientPutInServerPost
  rw [h]

theorem hookClientDisconnectPre_of_none {slot : Int} (h : slotOf slot = none) (w : World)
    (targeted : Bool) : w.hookClientDisconnectPre slot targeted = w := by
  unfold hookClientDisconnectPre
  rw [h]

/-- What `BH_SetSteamId` can do: renumber its target, or nothing. -/
theorem bhSetSteamId_cases (w : World) (slot : Int) (incarnation steamId : UInt64)
    (alloc : Bool) :
    (∃ index, w.target slot incarnation = some index ∧
      w.bhSetSteamId slot incarnation steamId alloc = w.applySteamIdCommand index steamId) ∨
    w.bhSetSteamId slot incarnation steamId alloc = (w, false) := by
  unfold bhSetSteamId
  cases h : w.target slot incarnation with
  | none => exact Or.inr rfl
  | some index =>
    dsimp only
    split
    · exact Or.inr rfl
    · exact Or.inl ⟨index, rfl, rfl⟩

/-- What `SetBotSteamId` does to the native side is a `BH_SetSteamId`, or nothing. -/
theorem setBotSteamId_cases (w : World) (slot : Int) (steamId : UInt64) (alloc : Bool) :
    (∃ s, w.readSlot slot = some s ∧ (w.setBotSteamId slot steamId alloc).1.native =
      (w.bhSetSteamId slot s.incarnation steamId alloc).1.native) ∨
    (w.readSlot slot = none ∧ (w.setBotSteamId slot steamId alloc).1 = w) := by
  unfold setBotSteamId
  cases w.readSlot slot with
  | none => exact Or.inr ⟨rfl, rfl⟩
  | some s =>
    refine Or.inl ⟨s, rfl, ?_⟩
    dsimp only
    split
    · rfl
    · exact native_queueVisibleWrite ..

/-- What `SetPersonaName` does to the native side is a `BH_SetName`, or nothing. -/
theorem setPersonaName_cases (w : World) (call : SetNameCall) (slot : Int)
    (normalized : Bytes) :
    (∃ incarnation, (w.setPersonaName call slot normalized).1.native =
      (w.bhSetName call slot incarnation (some normalized) normalized.length).1.native) ∨
    (w.setPersonaName call slot normalized).1 = w := by
  unfold setPersonaName
  split
  · exact Or.inr rfl
  · cases w.readSlot slot with
    | none => exact Or.inr rfl
    | some s =>
      refine Or.inl ⟨s.incarnation, ?_⟩
      dsimp only
      split
      · rfl
      · exact native_queueVisibleWrite ..

theorem setup_bhSetSteamId (w : World) (slot : Int) (incarnation steamId : UInt64)
    (alloc : Bool) :
    (w.bhSetSteamId slot incarnation steamId alloc).1.setup = w.setup := by
  rcases bhSetSteamId_cases w slot incarnation steamId alloc with ⟨index, -, h⟩ | h
  · rw [h]
    exact (confined_applySteamIdCommand w index steamId).setup
  · rw [h]

theorem setup_bhSetName (w : World) (call : SetNameCall) (slot : Int) (incarnation : UInt64)
    (name : Option Bytes) (length : Int) :
    (w.bhSetName call slot incarnation name length).1.setup = w.setup := by
  cases h : w.target slot incarnation with
  | none =>
    unfold bhSetName
    rw [h]
  | some index => exact (confined_bhSetName w call h name length).setup

theorem setup_bhSetAvatar (w : World) (slot : Int) (incarnation : UInt64)
    (data : Option Bytes) (length : Int) (alloc : Bool) :
    (w.bhSetAvatar slot incarnation data length alloc).1.setup = w.setup := by
  unfold bhSetAvatar
  split
  · rfl
  · split
    · rfl
    · dsimp only
      split <;> rfl

theorem setup_finishAvatarRead (w : World) (alloc : Bool) (slot : Slot) :
    (w.finishAvatarRead alloc slot).setup = w.setup := by
  rcases native_finishAvatarRead w alloc slot with ⟨_, _, h⟩ | h
  · exact (setup_of_native h).trans (setup_bhSetAvatar ..)
  · exact setup_of_native h

theorem setup_bhDetach (w : World) : w.bhDetach.setup = w.setup := by
  unfold bhDetach
  split <;> rfl

/-- The events that change the mode or its hook, or run the avatar module. -/
def Event.configures : Event → Bool
  | .tables _ | .processOverrides _ | .startChangeLevel _ | .levelInit _ | .levelShutdown _
  | .bhSetMode .. => true
  | _ => false

/-- Every other event of a loaded plugin keeps the setup. -/
theorem setup_step (hl : w.plugin.loaded = true) {e : Event} (h : e.configures = false) :
    (w.step e).setup = w.setup := by
  cases e with
  | clientConnected slot =>
    rcases slotOf_cases slot with hn | ⟨index, hi⟩
    · rw [World.step, hookOnClientConnectedPost_of_none hn]
    · exact (confined_hookOnClientConnectedPost w hi ..).setup
  | clientPutInServer call slot name =>
    rcases slotOf_cases slot with hn | ⟨index, hi⟩
    · rw [World.step, hookClientPutInServerPost_of_none hn]
    · exact (confined_hookClientPutInServerPost w call hi name).setup
  | clientDisconnect slot targeted =>
    rcases slotOf_cases slot with hn | ⟨index, hi⟩
    · rw [World.step, hookClientDisconnectPre_of_none hn]
    · exact (confined_hookClientDisconnectPre w hi targeted).setup
  | releaseHltv call slot => exact (confined_releaseManagedHltvSlot w call slot).setup
  | unload env removed now => rw [World.step, unload_of_loaded hl]
  | bhAttach => rfl
  | bhDetach => exact setup_bhDetach w
  | bhSetSteamId => exact setup_bhSetSteamId ..
  | bhSetName => exact setup_bhSetName ..
  | bhSetAvatar => exact setup_bhSetAvatar ..
  | loadImpl found =>
    unfold World.step loadImpl
    dsimp only
    split <;> rfl
  | unloadImpl =>
    have hreset := setup_of_core (core_of_stage (stage_resetAppliedState w))
    unfold World.step unloadImpl
    dsimp only
    split
    · exact hreset
    · exact (setup_bhDetach _).trans hreset
  | setBotSteamId slot steamId64 alloc =>
    rcases setBotSteamId_cases w slot steamId64 alloc with ⟨_, -, hn⟩ | ⟨-, hw⟩
    · exact (setup_of_native hn).trans (setup_bhSetSteamId ..)
    · rw [World.step, hw]
  | setPersonaName call slot normalized =>
    rcases setPersonaName_cases w call slot normalized with ⟨incarnation, hn⟩ | hw
    · exact (setup_of_native hn).trans (setup_bhSetName ..)
    · rw [World.step, hw]
  | trySetBotAvatar slot pngPath =>
    rcases native_trySetBotAvatar w slot pngPath with ⟨_, _, hn⟩ | hn
    · exact (setup_of_native hn).trans (setup_bhSetAvatar ..)
    · exact setup_of_native hn
  | completeAvatarRead => exact setup_of_native (native_completeAvatarRead ..)
  | finishAvatarReads alloc =>
    -- one slot of the sweep at a time
    exact Sweep.foldl_invariant (P := fun w' : World => w'.setup = w.setup) rfl
      fun w' slot _ h => (setup_finishAvatarRead w' (alloc slot) slot).trans h
  | tables => cases h
  | processOverrides => cases h
  | startChangeLevel => cases h
  | levelInit => cases h
  | levelShutdown => cases h
  | bhSetMode => cases h
  -- the rest is one of the engine's and the scopes' steps, or cosmetic
  | _ =>
    first
    | exact setup_of_core (core_step w rfl)
    | exact setup_of_shell (shell_step w rfl)

/-- No event unloads a loaded plugin. -/
theorem loaded_step (h : w.plugin.loaded = true) (e : Event) :
    (w.step e).plugin.loaded = true := by
  rw [← h]
  cases hc : e.configures with
  | false => exact congrArg (fun s : Setup => s.plugin.loaded) (setup_step h hc)
  | true =>
    cases e with
    | tables => rfl
    | processOverrides => rfl
    | startChangeLevel => rfl
    | levelInit gate => exact (moded_onLevelInit w gate).loaded
    | levelShutdown => rfl
    | bhSetMode gate mode => exact (moded_bhSetMode w gate mode).loaded
    | _ => cases hc

/-! ## Steps of the registry -/

theorem hop_finishAvatarRead (w : World) (alloc : Bool) (slot : Slot) :
    w.Hop (w.finishAvatarRead alloc slot) := by
  rcases native_finishAvatarRead w alloc slot with ⟨_, _, h⟩ | h
  · exact (hop_bhSetAvatar w ..).of_native h
  · exact Hop.of_native .refl h

theorem hop_trySetBotAvatar (w : World) (slot : Int) (pngPath : AvatarPath) :
    w.Hop (w.trySetBotAvatar slot pngPath).1 := by
  rcases native_trySetBotAvatar w slot pngPath with ⟨_, _, h⟩ | h
  · exact (hop_bhSetAvatar w ..).of_native h
  · exact Hop.of_native .refl h

/-- The events of avatar passes, and of finished reads. -/
def Event.avatars : Event → Bool
  | .processOverrides _ | .startChangeLevel _ | .levelInit _ | .levelShutdown _
  | .finishAvatarReads _ => true
  | _ => false

/-- The events of avatar commands, passes and finished reads. -/
def Event.requests : Event → Bool
  | .bhSetAvatar .. | .trySetBotAvatar .. => true
  | e => e.avatars

/-- The events that can change who holds what. -/
def Event.leases : Event → Bool
  | .clientConnected .. | .clientPutInServer .. | .clientDisconnect .. | .releaseHltv ..
  | .bhSetSteamId .. | .bhSetName .. | .setBotSteamId .. | .setPersonaName .. => true
  | e => e.requests

/-- Any other event of a loaded plugin leaves the registry alone. -/
theorem registry_step (hl : w.plugin.loaded = true) {e : Event} (h : e.leases = false) :
    (w.step e).registry = w.registry := by
  cases e with
  | tables => rfl
  | unload env removed now => rw [World.step, unload_of_loaded hl]
  | bhAttach => exact registry_bhAttach w
  | bhDetach => exact registry_bhDetach w
  | bhSetMode gate mode => exact registry_of_hull (hull_bhSetMode w gate mode)
  | loadImpl found =>
    unfold World.step loadImpl
    dsimp only
    split
    · rfl
    · exact registry_bhAttach w
  | unloadImpl =>
    have hreset := registry_of_core (core_of_stage (stage_resetAppliedState w))
    unfold World.step unloadImpl
    dsimp only
    split
    · exact hreset
    · exact (registry_bhDetach _).trans hreset
  | completeAvatarRead => exact registry_of_native (native_completeAvatarRead w ..)
  | clientConnected => cases h
  | clientPutInServer => cases h
  | clientDisconnect => cases h
  | releaseHltv => cases h
  | bhSetSteamId => cases h
  | bhSetName => cases h
  | setBotSteamId => cases h
  | setPersonaName => cases h
  | bhSetAvatar => cases h
  | trySetBotAvatar => cases h
  | processOverrides => cases h
  | startChangeLevel => cases h
  | levelInit => cases h
  | levelShutdown => cases h
  | finishAvatarReads => cases h
  | _ =>
    first
    | exact registry_of_core (core_step w rfl)
    | exact registry_of_shell (shell_step w rfl)

/-- An event that is no avatar command or pass changes who holds what at most once. -/
theorem step_leases (hg : w.registry.Good) (hl : w.plugin.loaded = true) {e : Event}
    (h : e.requests = false) : w.Leases (w.step e) := by
  cases hs : e.leases with
  | false => exact .of_eq (registry_step hl hs)
  | true =>
    cases e with
    | clientConnected => exact leases_hookOnClientConnectedPost hg ..
    | clientPutInServer => exact leases_hookClientPutInServerPost w ..
    | clientDisconnect => exact leases_hookClientDisconnectPre w ..
    | releaseHltv call slot => exact leases_releaseManagedHltvSlot w call slot
    | bhSetSteamId => exact leases_bhSetSteamId w ..
    | bhSetName => exact leases_bhSetName w ..
    | setBotSteamId slot steamId64 alloc =>
      rcases setBotSteamId_cases w slot steamId64 alloc with ⟨_, -, hn⟩ | ⟨-, hw⟩
      · exact (leases_bhSetSteamId w slot _ steamId64 alloc).of_native hn
      · exact .of_eq (congrArg World.registry hw)
    | setPersonaName call slot normalized =>
      rcases setPersonaName_cases w call slot normalized with ⟨incarnation, hn⟩ | hw
      · exact (leases_bhSetName w call slot incarnation _ _).of_native hn
      · exact .of_eq (congrArg World.registry hw)
    | _ => exact absurd (hs.symm.trans h) (by decide)

/-- Any event but the passes and finished reads moves the registry at most once. -/
theorem step_hop (hg : w.registry.Good) (hl : w.plugin.loaded = true) {e : Event}
    (h : e.avatars = false) : w.Hop (w.step e) := by
  cases hr : e.requests with
  | false => exact (step_leases hg hl hr).hop
  | true =>
    cases e with
    | bhSetAvatar => exact hop_bhSetAvatar w ..
    | trySetBotAvatar => exact hop_trySetBotAvatar w ..
    | _ => exact absurd (hr.symm.trans h) (by decide)

/-- **Step lemma.** Every event of a loaded plugin is a path of registry steps. -/
theorem step_path (hg : w.registry.Good) (hl : w.plugin.loaded = true) (e : Event) :
    w.Path (w.step e) := by
  cases h : e.avatars with
  | false => exact (step_hop hg hl h).path
  | true =>
    cases e with
    | processOverrides env => exact path_processOverrides w env
    | startChangeLevel env => exact path_hookStartChangeLevelPre w env
    | levelInit gate => exact path_onLevelInit w gate
    | levelShutdown env => exact path_onLevelShutdown w env
    | finishAvatarReads alloc =>
      exact Sweep.foldl_rel (R := World.Path) (fun _ => .refl) (fun _ _ _ => .trans)
        (fun w slot => (hop_finishAvatarRead w (alloc slot) slot).path) allSlots w
    | _ => cases h

/-! ## Loading -/

/-- What a load has built when it comes to existing bots, but for the plugin's variables. -/
theorem loading_eq (env : LoadEnv) : ∃ plugin : HiderPlugin, World.loading env =
    { manager :=
        FakeClientManager.init
          (FakeClientManager.configureFakePing
            { slots := fun _ => FakeClientManager.freshSlot env.initTime }
            env.fakePingEnabled env.fakePingMinimum env.fakePingMaximum)
          env.initTime
      botInfo := (BotInfoStore.load env.document env.poolTime).1
      plugin
      avatar :=
        { networkStringTables := env.networkStringTables
          states := fun _ => {}
          lastAvatarTable := none
          tables := env.tables }
      engine := env.engine } := by
  unfold World.loading
  dsimp only
  split
  · obtain ⟨server, hook, h⟩ := attachGameServerHook_fst _ env.added
    rw [h]
    split
    · exact ⟨_, rfl⟩
    · exact ⟨_, rfl⟩
  · exact ⟨_, rfl⟩

/-- The registry of a plugin that has just read its pool. -/
theorem registry_loading (env : LoadEnv) :
    (World.loading env).registry =
      { holding := fun _ => {}
        steamIds := (BotInfoStore.load env.document env.poolTime).1.entries.map BotEntry.steamId64
        assigned := (BotInfoStore.load env.document env.poolTime).1.assigned
        nextIncarnation := env.initTime
        issued := [] } := by
  have hholding : Holding.of (FakeClientManager.freshSlot env.initTime) none = {} := by
    simp [Holding.of, FakeClientManager.freshSlot]
  obtain ⟨plugin, h⟩ := loading_eq env
  rw [h]
  exact Registry.ext (funext fun _ => hholding) rfl rfl rfl rfl

theorem good_loading (env : LoadEnv) : (World.loading env).registry.Good := by
  rw [registry_loading]
  refine Registry.good_of_empty (fun _ => rfl) ?_ fun sid hsid => ?_
  · exact congrArg (List.replicate · false) (List.length_map ..).symm
  · obtain ⟨entry, hentry, rfl⟩ := List.mem_map.mp hsid
    exact (load_valid hentry).steamId64_ne_zero

/-- A load leaves the engine alone until it comes to existing bots, and opens no frame. -/
theorem engine_hooks_loading (env : LoadEnv) :
    (World.loading env).engine = env.engine ∧ (World.loading env).hooks = {} := by
  obtain ⟨plugin, h⟩ := loading_eq env
  rw [h]
  exact ⟨rfl, rfl⟩

theorem isManaged_loading (env : LoadEnv) (s : Slot) :
    (World.loading env).manager.isManaged s = false :=
  congrArg (fun r : Registry => (r.holding s).managed) (registry_loading env)

/-- A slot that is not swept stays as it is. -/
theorem isManaged_adoptExisting_of_notMem (env : LoadEnv) {s : Slot} {l : List Slot} (hs : s ∉ l)
    (w : World) :
    (l.foldl (World.adoptExisting env) w).manager.isManaged s = w.manager.isManaged s := by
  refine Sweep.foldl_view_of_notMem (p := fun _ => True)
    (v := fun (w : World) (s : Slot) => w.manager.isManaged s) (fun _ _ _ => trivial)
    (fun w s t _ hst => ?_) hs trivial
  exact (confined_adoptExistingBot w _ _ s).isManaged (Ne.symm hst)

/-- What adopting an unmanaged slot keeps holds after a sweep over unmanaged slots. -/
theorem adoptExisting_invariant {I : World → Prop} (env : LoadEnv)
    (hstep : ∀ w s, I w → w.manager.isManaged s = false → I (World.adoptExisting env w s))
    {l : List Slot} {w : World} (hnd : l.Nodup) (hfree : ∀ s ∈ l, w.manager.isManaged s = false)
    (hw : I w) : I (l.foldl (World.adoptExisting env) w) := by
  induction l generalizing w with
  | nil => exact hw
  | cons s l ih =>
    obtain ⟨hs, hnd⟩ := List.nodup_cons.mp hnd
    refine ih hnd (fun t ht => ?_) (hstep w s hw (hfree s List.mem_cons_self))
    have hts : t ≠ s := fun h => hs (h ▸ ht)
    rw [World.adoptExisting, (confined_adoptExistingBot w _ _ s).isManaged hts]
    exact hfree t (List.mem_cons_of_mem _ ht)

/-- What holds before existing bots are adopted, and is kept by adopting an unmanaged
slot, holds of a loaded plugin. -/
theorem load_invariant {I : World → Prop} (env : LoadEnv) (h0 : I (World.loading env))
    (hstep : ∀ w s, I w → w.manager.isManaged s = false → I (World.adoptExisting env w s))
    (hloaded : ∀ w : World, I w → I { w with plugin := { w.plugin with loaded := true } }) :
    I (World.load env) := by
  unfold World.load
  dsimp only
  split
  · exact hloaded _ (adoptExisting_invariant env hstep allSlots_nodup
      (fun s _ => isManaged_loading env s) h0)
  · exact hloaded _ h0

theorem load_path (env : LoadEnv) : (World.loading env).Path (World.load env) := by
  refine (load_invariant (I := fun w => (World.loading env).Path w) env .refl
    (fun w s hw hm => ?_) fun w hw => hw)
  exact hw.trans (path_adoptExistingBot ((good_loading env).path hw) _ _ hm)

/-! ## Runs -/

/-- The world after a run of a freshly loaded plugin. -/
def World.run (env : LoadEnv) (es : List Event) : World :=
  Runs.exec World.step (World.load env) es

/-- The registry of a loaded plugin is in order. -/
structure World.Sane (w : World) : Prop where
  good : w.registry.Good
  loaded : w.plugin.loaded = true

theorem sane_load (env : LoadEnv) : (World.load env).Sane :=
  ⟨(good_loading env).path (load_path env), rfl⟩

theorem World.Sane.step (h : w.Sane) (e : Event) : (w.step e).Sane :=
  ⟨h.good.path (step_path h.good h.loaded e), loaded_step h.loaded e⟩

theorem World.Sane.exec (h : w.Sane) (es : List Event) : (Runs.exec World.step w es).Sane :=
  Runs.exec_always h fun _ e hs => hs.step e

/-- A run takes the registry along one of its own paths. -/
theorem exec_path (h : w.Sane) (es : List Event) : w.Path (Runs.exec World.step w es) :=
  Runs.exec_simulates World.registry h (fun _ e hs _ => hs.step e)
    (fun _ e hs _ => step_path hs.good hs.loaded e) (Runs.admits_true w es)

/-- **Run lemma.** The registry's invariant holds after every run. -/
theorem sane_run (env : LoadEnv) (es : List Event) : (World.run env es).Sane :=
  (sane_load env).exec es

/-- The incarnations handed out are the first values of the counter `Init` seeded. -/
theorem counted_run (env : LoadEnv) (es : List Event) :
    (World.run env es).registry.Counted env.initTime := by
  have h0 : (World.loading env).registry.Counted env.initTime := by
    rw [registry_loading]
    exact ⟨rfl, rfl⟩
  exact Runs.path_invariant h0 (fun _ _ => Registry.Counted.step)
    ((load_path env).trans (exec_path (sane_load env) es))

end BotHider.Model
