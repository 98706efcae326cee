import BotHider.Registry.Runs

/-!
# BotHider — the mode follows the intent

Player mode needs the change-level hook, and between levels there is no server to hook, so
the mode someone asked for is split over `m_identityMode` and `m_startInPlayerMode`. A run
is followed here beside the *intent*: what was last asked for, or `Bot` since an attach
failed.

* `binding_step` — only level changes and `SetIdentityMode` touch the mode and its hook.
* `Binding.Aligned` — the mode, the remembered mode and the hook agree with the intent.
* `aligned_step` — every call keeps them aligned.
* `mode_follows_intent` — so they are after every run, and a level change restores Player
  mode exactly when it was the intent.
-/

namespace BotHider.Model

open World

/-! ## The binding of a world -/

/-- The mode variables of the plugin and the servers its change-level hook is on. -/
structure Binding where
  identityMode : IdentityMode
  startInPlayerMode : Bool
  hookedGameServer : Option Nat
  startChangeLevelHook : List Nat

/-- The binding of a world. -/
def World.binding (w : World) : Binding where
  identityMode := w.plugin.identityMode
  startInPlayerMode := w.plugin.startInPlayerMode
  hookedGameServer := w.plugin.hookedGameServer
  startChangeLevelHook := w.plugin.startChangeLevelHook

theorem binding_of_setup {w w' : World} (h : w'.setup = w.setup) :
    w'.binding = w.binding :=
  congrArg (fun s : Setup => (⟨s.plugin.identityMode, s.plugin.startInPlayerMode,
    s.plugin.hookedGameServer, s.plugin.startChangeLevelHook⟩ : Binding)) h

/-- The events that may change the mode or its hook. -/
def Event.changesMode : Event → Bool
  | .levelInit _ | .levelShutdown _ | .bhSetMode .. => true
  | _ => false

/-- Every other event of a loaded plugin keeps the binding. -/
theorem binding_step {w : World} (hl : w.plugin.loaded = true) {e : Event}
    (h : e.changesMode = false) : (w.step e).binding = w.binding := by
  cases hc : e.configures with
  | false => exact binding_of_setup (setup_step hl hc)
  | true =>
    cases e with
    | tables => rfl
    | processOverrides => rfl
    | startChangeLevel => rfl
    | levelInit => cases h
    | levelShutdown => cases h
    | bhSetMode => cases h
    | _ => cases hc

/-! ## Calls and the intent -/

/-- An event of the system, or a call of `SetIdentityMode` itself. -/
inductive ModeCall
  | event (e : Event)
  | setIdentityMode (gate : ModeGate) (mode : IdentityMode)

/-- The intent after a `SetIdentityMode`. A rejected request leaves it, unless the hook of
a plugin in Player mode could not be moved. -/
def World.intentAfterSet (w : World) (gate : ModeGate) (intent : IdentityMode) :
    IdentityMode → IdentityMode
  | .bot => .bot
  | .player =>
    if (w.setIdentityMode gate .player).2 then .player
    else if w.isDisguiseEnabled ∧ gate.canEnable ∧ !(w.attachGameServerHook gate.added).2 then
      .bot
    else intent

/-- The intent after a call. -/
def World.intentAfter (w : World) (intent : IdentityMode) : ModeCall → IdentityMode
  | .setIdentityMode gate mode => w.intentAfterSet gate intent mode
  | .event (.levelInit gate) =>
    if (w.attachGameServerHook gate.added).2 then intent else .bot
  | .event (.bhSetMode gate mode) =>
    if !w.connected ∨ (mode ≠ 0 ∧ mode ≠ 1) then intent
    else w.intentAfterSet gate intent (if mode = 1 then .bot else .player)
  | .event _ => intent

/-- The intent after `Load`: the configured mode, or `Bot` when there is a server and its
hook could not be added. -/
def LoadEnv.intent (env : LoadEnv) : IdentityMode :=
  if env.botMode ∨ (env.engine.gameServer.isSome ∧ !env.added) then .bot else .player

/-- A world beside the intent. -/
structure Steered where
  world : World
  intent : IdentityMode

namespace Steered

/-- One call, on both. -/
def step (s : Steered) (call : ModeCall) : Steered where
  world := match call with
    | .event e => s.world.step e
    | .setIdentityMode gate mode => (s.world.setIdentityMode gate mode).1
  intent := s.world.intentAfter s.intent call

/-- A loaded plugin. -/
def load (env : LoadEnv) : Steered where
  world := World.load env
  intent := env.intent

end Steered

/-! ## The invariant -/

/-- The hook is on the hooked server alone, and the mode and the remembered mode say what
the intent is. -/
structure Binding.Aligned (b : Binding) (intent : IdentityMode) : Prop where
  hook : b.startChangeLevelHook = b.hookedGameServer.toList
  hooked : b.identityMode = .player → b.hookedGameServer.isSome = true
  apart : ¬ (b.identityMode = .player ∧ b.startInPlayerMode = true)
  intent : intent = .player ↔ b.identityMode = .player ∨ b.startInPlayerMode = true

variable {w : World} {intent : IdentityMode}

/-! ## Attaching -/

/-- Attaching succeeds on a server that is hooked already or can be. -/
theorem attachGameServerHook_snd (w : World) (added : Bool) :
    (w.attachGameServerHook added).2 = true ↔ ∃ server, w.engine.gameServer = some server ∧
      (w.plugin.hookedGameServer = some server.addr ∨ added = true) := by
  unfold attachGameServerHook
  dsimp only
  cases hs : w.engine.gameServer with
  | none =>
    simp only [Option.map_none]
    split <;> simp
  | some server =>
    simp only [Option.map_some]
    split
    · rename_i hsame
      simp [← hsame]
    · rename_i hother
      cases added with
      | true => simp
      | false => simpa using fun h => hother h.symm

/-- What an attach leaves: the hook on the server when it succeeds, and nowhere when it
fails. -/
theorem binding_attachGameServerHook (h : w.binding.Aligned intent) (added : Bool) :
    (w.attachGameServerHook added).1.binding =
      { w.binding with
        hookedGameServer := if (w.attachGameServerHook added).2 then
          w.engine.gameServer.map GameServer.addr else none
        startChangeLevelHook := if (w.attachGameServerHook added).2 then
          (w.engine.gameServer.map GameServer.addr).toList else [] } := by
  have hhook : w.plugin.startChangeLevelHook = w.plugin.hookedGameServer.toList := h.hook
  unfold attachGameServerHook
  dsimp only
  by_cases hsame : w.engine.gameServer.map GameServer.addr = w.plugin.hookedGameServer
  · rw [if_pos hsame]
    unfold World.binding
    dsimp only
    rw [hhook, hsame]
    cases w.plugin.hookedGameServer <;> rfl
  · rw [if_neg hsame]
    -- only the hooked server was ever added, so removing it leaves no hook
    cases hold : w.plugin.hookedGameServer with
    | none =>
      cases w.engine.gameServer <;> cases added <;> simp [World.binding, hhook, hold]
    | some old =>
      cases w.engine.gameServer <;> cases added <;> simp [World.binding, hhook, hold]

theorem engine_attachGameServerHook (w : World) (added : Bool) :
    (w.attachGameServerHook added).1.engine.gameServer = w.engine.gameServer :=
  congrArg Face.gameServer (face_attachGameServerHook w added)

/-! ## Setting the mode -/

theorem binding_commitIdentityMode (w : World) (mode : IdentityMode) :
    (w.commitIdentityMode mode).binding =
      { w.binding with identityMode := mode, startInPlayerMode := false } := by
  unfold commitIdentityMode
  dsimp only
  split
  · rename_i hmode
    unfold World.binding
    rw [← hmode]
  · rfl

/-- Bot mode is aligned with the intent `Bot`, whatever is hooked. -/
theorem aligned_commit_bot (hhook : w.binding.startChangeLevelHook =
    w.binding.hookedGameServer.toList) : (w.commitIdentityMode .bot).binding.Aligned .bot := by
  rw [binding_commitIdentityMode]
  exact ⟨hhook, nofun, (fun h => nomatch h.1), by simp⟩

/-- Player mode on a hooked server is aligned with the intent `Player`. -/
theorem aligned_commit_player (hhook : w.binding.startChangeLevelHook =
    w.binding.hookedGameServer.toList) (hhooked : w.binding.hookedGameServer.isSome = true) :
    (w.commitIdentityMode .player).binding.Aligned .player := by
  rw [binding_commitIdentityMode]
  exact ⟨hhook, fun _ => hhooked, (fun h => nomatch h.2), by simp⟩

/-- An attach keeps the hook on the hooked server alone, and fails exactly when no server
is hooked after it. -/
theorem hook_attachGameServerHook (h : w.binding.Aligned intent) (added : Bool) :
    (w.attachGameServerHook added).1.binding.startChangeLevelHook =
        (w.attachGameServerHook added).1.binding.hookedGameServer.toList ∧
      (w.attachGameServerHook added).1.binding.hookedGameServer.isSome =
        (w.attachGameServerHook added).2 := by
  rw [binding_attachGameServerHook h]
  cases hok : (w.attachGameServerHook added).2 with
  | false => exact ⟨rfl, rfl⟩
  | true =>
    obtain ⟨server, hserver, -⟩ := (attachGameServerHook_snd w added).mp hok
    simp [hserver]

/-- **Setting the mode.** `SetIdentityMode` keeps the binding aligned. -/
theorem aligned_setIdentityMode (h : w.binding.Aligned intent) (gate : ModeGate)
    (mode : IdentityMode) :
    (w.setIdentityMode gate mode).1.binding.Aligned (w.intentAfterSet gate intent mode) := by
  obtain ⟨hhook, hhooked⟩ := hook_attachGameServerHook h gate.added
  have hattach := binding_attachGameServerHook h gate.added
  cases mode with
  | bot => exact aligned_commit_bot h.hook
  | player =>
    unfold intentAfterSet setIdentityMode
    cases hcan : gate.canEnable with
    | false => simpa using h
    | true =>
      cases hok : (w.attachGameServerHook gate.added).2 with
      | true =>
        rw [hok] at hhooked
        simpa [hok] using aligned_commit_player hhook hhooked
      | false =>
        have hmode : (w.attachGameServerHook gate.added).1.isDisguiseEnabled =
            w.isDisguiseEnabled := by
          unfold isDisguiseEnabled
          exact congrArg (· == IdentityMode.player) (congrArg Binding.identityMode hattach)
        cases hdisguised : w.isDisguiseEnabled with
        | true => simpa [hok, hmode, hdisguised] using aligned_commit_bot hhook
        | false =>
          -- a request made in Bot mode and rejected leaves the remembered mode
          have hbot : w.binding.identityMode ≠ .player := by
            simpa [isDisguiseEnabled, World.binding] using hdisguised
          have hkept : (w.attachGameServerHook gate.added).1.binding.Aligned intent := by
            rw [hattach, hok]
            exact ⟨rfl, fun hp => absurd hp hbot, h.apart, h.intent⟩
          simpa [hok, hmode, hdisguised] using hkept

/-! ## Levels -/

/-- A server whose hook was just added is found hooked. -/
theorem attached_again {added : Bool} (h : (w.attachGameServerHook added).2 = true) :
    ((w.attachGameServerHook added).1.attachGameServerHook added).2 = true := by
  obtain ⟨server, hserver, hadd⟩ := (attachGameServerHook_snd w added).mp h
  refine (attachGameServerHook_snd _ added).mpr
    ⟨server, (engine_attachGameServerHook w added).trans hserver, ?_⟩
  rcases hadd with hsame | hadded
  · refine Or.inl ?_
    have hkept : w.attachGameServerHook added = (w, true) := by
      unfold attachGameServerHook
      simp [hserver, hsame]
    rw [hkept]
    exact hsame
  · exact Or.inr hadded

/-- Only the gate rejects a request when the server can be hooked, and the intent stays. -/
theorem intentAfterSet_of_attached {gate : ModeGate}
    (h : (w.attachGameServerHook gate.added).2 = true) :
    w.intentAfterSet gate .player .player = .player := by
  unfold intentAfterSet
  simp [h]

/-- `OnLevelInit` drops what a level leaves behind, which keeps the binding, and then
attaches; Player mode is set if it was remembered. -/
theorem onLevelInit_eq (w : World) (gate : ModeGate) :
    ∃ reset : World, reset.binding = w.binding ∧
      (reset.attachGameServerHook gate.added).2 = (w.attachGameServerHook gate.added).2 ∧
      w.onLevelInit gate =
        if !(reset.attachGameServerHook gate.added).2 then
          (reset.attachGameServerHook gate.added).1.commitIdentityMode .bot
        else if (reset.attachGameServerHook gate.added).1.plugin.startInPlayerMode then
          ((reset.attachGameServerHook gate.added).1.setIdentityMode gate .player).1
        else (reset.attachGameServerHook gate.added).1 := by
  refine ⟨World.resetRuntime { w with identity := { w.identity with
    pendingControllerRemovals := [] } }, rfl, ?_, rfl⟩
  rw [Bool.eq_iff_iff, attachGameServerHook_snd, attachGameServerHook_snd]
  rfl

theorem aligned_onLevelInit (h : w.binding.Aligned intent) (gate : ModeGate) :
    (w.onLevelInit gate).binding.Aligned
      (if (w.attachGameServerHook gate.added).2 then intent else .bot) := by
  obtain ⟨reset, hbinding, hsnd, hinit⟩ := onLevelInit_eq w gate
  have hr : reset.binding.Aligned intent := hbinding ▸ h
  obtain ⟨hhook, hhooked⟩ := hook_attachGameServerHook hr gate.added
  have hattach := binding_attachGameServerHook hr gate.added
  rw [hinit, ← hsnd]
  cases hok : (reset.attachGameServerHook gate.added).2 with
  | false => exact aligned_commit_bot hhook
  | true =>
    rw [hok] at hhooked
    have hkept : (reset.attachGameServerHook gate.added).1.binding.Aligned intent := by
      rw [hattach] at hhook hhooked ⊢
      exact ⟨hhook, fun _ => hhooked, hr.apart, hr.intent⟩
    cases hstart : (reset.attachGameServerHook gate.added).1.plugin.startInPlayerMode with
    | false => simpa [hstart] using hkept
    | true =>
      obtain rfl : intent = .player := hkept.intent.mpr (Or.inr hstart)
      have hset := aligned_setIdentityMode hkept gate .player
      rw [intentAfterSet_of_attached (attached_again hok)] at hset
      simpa [hstart] using hset

/-- A request on a server that can be hooked is decided by the gate. -/
theorem mode_setIdentityMode {gate : ModeGate}
    (h : (w.attachGameServerHook gate.added).2 = true) :
    (w.setIdentityMode gate .player).1.plugin.identityMode =
      if gate.canEnable then .player else w.plugin.identityMode := by
  unfold setIdentityMode
  cases gate.canEnable with
  | false => rfl
  | true =>
    have hcommit : ((w.attachGameServerHook gate.added).1.commitIdentityMode
        .player).plugin.identityMode = .player :=
      congrArg Binding.identityMode (binding_commitIdentityMode _ .player)
    simpa [h] using hcommit

/-- A level that starts on a server that can be hooked takes up the remembered mode if the
gate lets it. -/
theorem mode_onLevelInit (h : w.binding.Aligned intent) {gate : ModeGate}
    (hok : (w.attachGameServerHook gate.added).2 = true) :
    (w.onLevelInit gate).plugin.identityMode =
      if w.plugin.startInPlayerMode ∧ gate.canEnable then .player
      else w.plugin.identityMode := by
  obtain ⟨reset, hbinding, hsnd, hinit⟩ := onLevelInit_eq w gate
  have hattach := binding_attachGameServerHook (hbinding ▸ h) gate.added
  have hstart : (reset.attachGameServerHook gate.added).1.plugin.startInPlayerMode =
      w.plugin.startInPlayerMode :=
    (congrArg Binding.startInPlayerMode hattach).trans
      (congrArg Binding.startInPlayerMode hbinding)
  have hmode : (reset.attachGameServerHook gate.added).1.plugin.identityMode =
      w.plugin.identityMode :=
    (congrArg Binding.identityMode hattach).trans (congrArg Binding.identityMode hbinding)
  have hagain := attached_again (hsnd.trans hok)
  rw [hinit, hsnd, hok, hstart]
  cases w.plugin.startInPlayerMode with
  | false => simpa using hmode
  | true =>
    have hset := mode_setIdentityMode hagain
    rw [hmode] at hset
    simpa using hset

/-- `OnLevelShutdown`: Player mode is remembered, and nothing stays hooked. -/
theorem binding_onLevelShutdown (h : w.binding.Aligned intent) (env : PassEnv) :
    (w.onLevelShutdown env).binding =
      { identityMode := .bot
        startInPlayerMode := intent == .player
        hookedGameServer := none
        startChangeLevelHook := [] } := by
  have hhook : w.plugin.startChangeLevelHook = w.plugin.hookedGameServer.toList := h.hook
  have hremoved : (w.onLevelShutdown env).plugin.startChangeLevelHook = [] := by
    have hserver : (((w.releaseAll).processOverrides env).resetRuntime).plugin = w.plugin := rfl
    unfold onLevelShutdown
    dsimp only
    rw [hserver]
    cases hold : w.plugin.hookedGameServer <;> simp [hhook, hold]
  have hmode : (w.onLevelShutdown env).plugin.identityMode = .bot := by
    change (if w.plugin.identityMode == .player then IdentityMode.bot else w.plugin.identityMode) =
      .bot
    cases w.plugin.identityMode <;> rfl
  have hstart : (w.onLevelShutdown env).plugin.startInPlayerMode = (intent == .player) := by
    change (w.plugin.startInPlayerMode || w.plugin.identityMode == .player) = _
    rw [Bool.eq_iff_iff]
    simpa [World.binding, or_comm] using h.intent.symm
  unfold World.binding
  rw [hremoved, hmode, hstart]
  rfl

theorem aligned_onLevelShutdown (h : w.binding.Aligned intent) (env : PassEnv) :
    (w.onLevelShutdown env).binding.Aligned intent := by
  rw [binding_onLevelShutdown h]
  exact ⟨rfl, nofun, (fun hp => nomatch hp.1), by simp⟩

/-! ## Runs -/

/-- **Step lemma.** Every call on a loaded plugin keeps the binding aligned. -/
theorem aligned_step (hl : w.plugin.loaded = true) (h : w.binding.Aligned intent)
    (call : ModeCall) :
    ((Steered.step ⟨w, intent⟩ call).world.binding).Aligned
      (Steered.step ⟨w, intent⟩ call).intent := by
  cases call with
  | setIdentityMode gate mode => exact aligned_setIdentityMode h gate mode
  | event e =>
    by_cases hmode : e.changesMode
    · cases e with
      | levelInit gate => exact aligned_onLevelInit h gate
      | levelShutdown env => exact aligned_onLevelShutdown h env
      | bhSetMode gate mode =>
        change (w.bhSetMode gate mode).1.binding.Aligned
          (if !w.connected ∨ (mode ≠ 0 ∧ mode ≠ 1) then intent
            else w.intentAfterSet gate intent (if mode = 1 then .bot else .player))
        unfold bhSetMode
        split
        · exact h
        · exact aligned_setIdentityMode h gate _
      | _ => cases hmode
    · have hkept : (w.step e).binding = w.binding := binding_step hl (by simpa using hmode)
      have hintent : w.intentAfter intent (.event e) = intent := by
        cases e with
        | levelInit => exact absurd rfl hmode
        | bhSetMode => exact absurd rfl hmode
        | _ => rfl
      change (w.step e).binding.Aligned (w.intentAfter intent (.event e))
      rw [hkept, hintent]
      exact h

/-- What `Load` does to a plugin with nothing hooked: it attaches where there is a server,
and remembers the configured mode where there is none. -/
theorem aligned_loading (env : LoadEnv) : (World.loading env).binding.Aligned env.intent := by
  unfold World.loading LoadEnv.intent
  dsimp only
  generalize hfresh : ({ manager := _, botInfo := _, avatar := _, engine := env.engine } : World) =
    w
  have hw : w.binding = ⟨.bot, false, none, []⟩ := hfresh ▸ rfl
  have hserver : w.engine.gameServer = env.engine.gameServer := hfresh ▸ rfl
  have hold : w.plugin.hookedGameServer = none := hfresh ▸ rfl
  have h : w.binding.Aligned .bot := by
    rw [hw]
    exact ⟨rfl, nofun, (fun hp => nomatch hp.1), by simp⟩
  by_cases hsome : env.engine.gameServer.isSome
  · rw [if_pos hsome]
    obtain ⟨hhook, hhooked⟩ := hook_attachGameServerHook h env.added
    have hattach := binding_attachGameServerHook h env.added
    obtain ⟨server, hs⟩ := Option.isSome_iff_exists.mp hsome
    -- nothing is hooked yet, so attaching fails exactly when adding does
    have hok : (w.attachGameServerHook env.added).2 = env.added := by
      rw [Bool.eq_iff_iff, attachGameServerHook_snd, hserver, hold, hs]
      simp
    have hstart : (w.attachGameServerHook env.added).1.binding.startInPlayerMode = false := by
      rw [hattach, hw]
    by_cases hplayer : (w.attachGameServerHook env.added).2 = true ∧ !env.botMode
    · rw [if_pos hplayer]
      have hintent : ¬ (env.botMode = true ∨ (env.engine.gameServer.isSome = true ∧
          (!env.added) = true)) := by
        rw [hok] at hplayer
        simpa [hsome, and_comm] using hplayer
      rw [if_neg hintent]
      exact ⟨hhook, fun _ => hhooked.trans hplayer.1,
        fun hp => absurd (hstart.symm.trans hp.2) Bool.false_ne_true,
        iff_of_true rfl (Or.inl rfl)⟩
    · rw [if_neg hplayer]
      have hintent : env.botMode = true ∨ (env.engine.gameServer.isSome = true ∧
          (!env.added) = true) := by
        rw [hok] at hplayer
        cases hb : env.botMode <;> simp_all
      rw [if_pos hintent]
      rw [hattach, hw] at hhook ⊢
      exact ⟨hhook, nofun, (fun hp => nomatch hp.1), by simp⟩
  · rw [if_neg hsome]
    have hserverless : (env.botMode = true ∨ (env.engine.gameServer.isSome = true ∧
        (!env.added) = true)) ↔ env.botMode = true := by
      simp [hsome]
    rw [if_congr hserverless rfl rfl]
    change Binding.Aligned ⟨.bot, !env.botMode, none, []⟩ _
    cases env.botMode
    · exact ⟨rfl, nofun, (fun hp => nomatch hp.1), by simp⟩
    · exact ⟨rfl, nofun, (fun hp => nomatch hp.1), by simp⟩

/-- `Load` leaves the binding aligned with the configured mode. -/
theorem aligned_load (env : LoadEnv) : (World.load env).binding.Aligned env.intent :=
  load_invariant (I := fun w => w.binding.Aligned env.intent) env (aligned_loading env)
    (fun w s h _ => binding_of_setup (confined_adoptExistingBot w _ _ s).setup ▸ h) fun _ h => h

/-- A steered world is loaded and its binding aligned with its intent. -/
structure Steered.Sound (s : Steered) : Prop where
  loaded : s.world.plugin.loaded = true
  aligned : s.world.binding.Aligned s.intent

theorem Steered.Sound.step {s : Steered} (h : s.Sound) (call : ModeCall) :
    (s.step call).Sound := by
  refine ⟨?_, aligned_step h.loaded h.aligned call⟩
  cases call with
  | event e => exact loaded_step h.loaded e
  | setIdentityMode gate mode =>
    exact (moded_setIdentityMode s.world gate mode).loaded.trans h.loaded

/-- **Run lemma.** -/
theorem sound_run (env : LoadEnv) (calls : List ModeCall) :
    (Runs.exec Steered.step (Steered.load env) calls).Sound := by
  have hload : (Steered.load env).Sound := ⟨rfl, aligned_load env⟩
  exact Runs.exec_always hload fun _ call hs => hs.step call

/-- A level change restores Player mode exactly when it is the intent, the new server can
be hooked and disguise is possible on it. -/
theorem player_after_level_change (h : w.binding.Aligned intent) (penv : PassEnv)
    (engine : Engine) (gate : ModeGate) :
    (((w.onLevelShutdown penv).withEngine engine).onLevelInit gate).plugin.identityMode =
        .player ↔
      intent = .player ∧ gate.canEnable = true ∧ engine.gameServer.isSome = true ∧
        gate.added = true := by
  have hshut : ((w.onLevelShutdown penv).withEngine engine).binding =
      ⟨.bot, intent == .player, none, []⟩ := binding_onLevelShutdown h penv
  have hengine : ((w.onLevelShutdown penv).withEngine engine).engine = engine := rfl
  revert hshut hengine
  generalize (w.onLevelShutdown penv).withEngine engine = shut
  intro hshut hengine
  have haligned : shut.binding.Aligned intent := by
    rw [hshut]
    exact ⟨rfl, nofun, (fun hp => nomatch hp.1), by simp⟩
  have hold : shut.plugin.hookedGameServer = none := congrArg Binding.hookedGameServer hshut
  have hok : (shut.attachGameServerHook gate.added).2 = true ↔
      engine.gameServer.isSome = true ∧ gate.added = true := by
    rw [attachGameServerHook_snd, hengine, hold, Option.isSome_iff_exists]
    simp
  by_cases hattached : (shut.attachGameServerHook gate.added).2 = true
  · have hmode : shut.plugin.identityMode = .bot := congrArg Binding.identityMode hshut
    have hstart : shut.plugin.startInPlayerMode = (intent == .player) :=
      congrArg Binding.startInPlayerMode hshut
    obtain ⟨hsome, hadded⟩ := hok.mp hattached
    rw [mode_onLevelInit haligned hattached, hmode, hstart]
    by_cases hall : (intent == .player) = true ∧ gate.canEnable = true
    · rw [if_pos hall]
      exact iff_of_true rfl ⟨by simpa using hall.1, hall.2, hsome, hadded⟩
    · rw [if_neg hall]
      exact iff_of_false nofun fun h => hall ⟨by simpa using h.1, h.2.1⟩
  · have hinit := aligned_onLevelInit haligned gate
    rw [if_neg hattached] at hinit
    have hbot : (shut.onLevelInit gate).plugin.identityMode ≠ .player :=
      fun hp => nomatch hinit.intent.mpr (Or.inl hp)
    exact iff_of_false hbot fun hall => hattached (hok.mpr hall.2.2)

/-- **Mode.** After any calls from a successful `Load` on, with any engine, gate and hook
registration at each: Player mode means the change-level hook is on the hooked server and on
no other, it is never remembered while it is on, and the intent is Player exactly when the
mode is or it is remembered. So a level change restores it exactly when it is the intent. -/
theorem mode_follows_intent (env : LoadEnv) (calls : List ModeCall) :
    let s := Runs.exec Steered.step (Steered.load env) calls
    let plugin := s.world.plugin
    (plugin.identityMode = .player → ∃ server, plugin.hookedGameServer = some server ∧
      plugin.startChangeLevelHook = [server]) ∧
    ¬ (plugin.identityMode = .player ∧ plugin.startInPlayerMode = true) ∧
    (s.intent = .player ↔ plugin.identityMode = .player ∨ plugin.startInPlayerMode = true) ∧
    ∀ (penv : PassEnv) (engine : Engine) (gate : ModeGate),
      let next := ((s.world.onLevelShutdown penv).withEngine engine).onLevelInit gate
      (next.plugin.identityMode = .player ↔ s.intent = .player ∧ gate.canEnable = true ∧
        engine.gameServer.isSome = true ∧ gate.added = true) := by
  obtain ⟨-, haligned⟩ := sound_run env calls
  refine ⟨fun hplayer => ?_, haligned.apart, haligned.intent, player_after_level_change haligned⟩
  obtain ⟨server, hserver⟩ := Option.isSome_iff_exists.mp (haligned.hooked hplayer)
  refine ⟨server, hserver, ?_⟩
  have hhook := haligned.hook
  rw [hserver] at hhook
  exact hhook

end BotHider.Model
