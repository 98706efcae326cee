import BotHider.Mode.Intent
import BotHider.Model.Startup

/-!
# BotHider — a load takes effect whole or not at all

`Load` sets up a dozen things that `Unload` and the failing branches of `Load` take down
again, each branch with a list of its own.

* `Process.Absent`, `Process.Installed` — nothing is set up, and everything is.
* `load_spec` — a load of an absent plugin either fails and leaves it absent, or succeeds and
  leaves it installed with the world `World.load` describes.
* `installed_event` — what reaches an installed plugin leaves it installed, and in Player mode
  only while everything that mode depends on is there.
* `load_whole_or_not` — so it is after every run of loads, unloads and events.
-/

namespace BotHider.Model

open World

/-! ## Texts -/

theorem appendName_of_ne {list : Bytes} (h : list ≠ []) (name : Bytes) :
    appendName list name = list ++ (ascii ", " ++ name) := by
  unfold appendName
  rw [if_neg h, List.append_assoc]

/-- A list of names that is not empty is written out in full. -/
theorem foldl_appendName {names : List Bytes} {list : Bytes} (h : list ≠ []) :
    names.foldl appendName list = list ++ names.flatMap (ascii ", " ++ ·) := by
  induction names generalizing list with
  | nil => simp
  | cons name names ih =>
    rw [List.foldl_cons, appendName_of_ne h, ih (by simp [h]), List.flatMap_cons,
      List.append_assoc]

/-- The text is empty only if there is nothing to name. -/
theorem foldl_appendName_eq_nil {names : List Bytes} (h : ∀ name ∈ names, name ≠ []) :
    names.foldl appendName [] = [] ↔ names = [] := by
  cases names with
  | nil => simp
  | cons name names =>
    have hname : appendName [] name = name := rfl
    have hne : name ≠ [] := h name List.mem_cons_self
    rw [List.foldl_cons, hname, foldl_appendName hne]
    simp [hne]

/-! ## Detours -/

namespace Detours

variable {d : Detours} {installs : Detour → Bool}

/-- A detour is on exactly the functions that have a target. -/
def Matched (d : Detours) : Prop := ∀ hook, d.active hook = (d.target hook).isSome

/-- The detours of these hooks are on exactly their targets, and no other is on. -/
def MatchedOn (d : Detours) (hooks : List Detour) : Prop :=
  ∀ hook, d.active hook = (decide (hook ∈ hooks) && (d.target hook).isSome)

theorem matchedOn_installHook {hooks : List Detour} (h : d.MatchedOn hooks) (hook : Detour) :
    (d.installHook installs hook).MatchedOn (hook :: hooks) := by
  intro other
  unfold installHook
  rcases eq_or_ne other hook with rfl | hne
  · cases ht : d.target other with
    | none => simp [h other, ht]
    | some target =>
      dsimp only
      split
      · simp [ht]
      · simp
  · cases ht : d.target hook with
    | none => simp [h other, hne]
    | some target =>
      dsimp only
      split
      · simp [h other, hne]
      · simp [h other, hne]

theorem matchedOn_foldl (hooks done : List Detour) (h : d.MatchedOn done) :
    (hooks.foldl (installHook installs) d).MatchedOn (hooks.reverse ++ done) := by
  induction hooks generalizing d done with
  | nil => exact h
  | cons hook hooks ih =>
    rw [List.foldl_cons, List.reverse_cons, List.append_assoc]
    exact ih (hook :: done) (matchedOn_installHook h hook)

/-- What was on stays on its target while another detour is installed. -/
theorem installHook_of_ne {hook other : Detour} (h : other ≠ hook) :
    (d.installHook installs hook).active other = d.active other := by
  unfold installHook
  split
  · rfl
  · split <;> exact Function.update_of_ne h ..

/-- **Installing.** From detours that are off, the ones that are on afterwards are the ones
with a target, and `ScriptIsBot` is among them only beside `PackEntities` and
`UTIL_Remove`. -/
theorem installPrepared_spec (hoff : ∀ hook, d.active hook = false) (utilRemove : Bool) :
    (d.installPrepared installs utilRemove).Matched ∧
      ((d.installPrepared installs utilRemove).active .scriptIsBot = true →
        (d.installPrepared installs utilRemove).active .pack = true ∧ utilRemove = true) := by
  have hbase : (baseDetours.foldl (installHook installs) d).MatchedOn (baseDetours.reverse ++ []) :=
    matchedOn_foldl baseDetours [] fun hook => by simp [hoff hook]
  have hscript : (baseDetours.foldl (installHook installs) d).active .scriptIsBot = false := by
    rw [hbase .scriptIsBot]
    rfl
  have hmem : ∀ hook, hook ≠ .scriptIsBot → hook ∈ baseDetours := by
    intro hook hne
    cases hook <;> first | exact absurd rfl hne | decide
  unfold installPrepared
  dsimp only
  split
  · rename_i hc
    rw [Bool.and_eq_true] at hc
    refine ⟨fun hook => ?_, fun _ => ⟨?_, hc.2⟩⟩
    · rw [matchedOn_installHook hbase .scriptIsBot hook]
      rcases eq_or_ne hook .scriptIsBot with rfl | hne
      · simp
      · simp [hmem hook hne]
    · rw [installHook_of_ne (by decide)]
      exact hc.1
  · refine ⟨fun hook => ?_, fun hon => ?_⟩
    · rcases eq_or_ne hook .scriptIsBot with rfl | hne
      · simp [hscript]
      · simp [hbase hook, hmem hook hne, hne]
    · exact absurd hon (by simp [hscript])

end Detours

/-! ## Virtual hooks -/

/-- The hook IDs a list of virtual hooks holds. -/
def Process.heldBy (p : Process) (hooks : List VirtualHook) : List Nat :=
  hooks.flatMap fun hook => (p.virtualHooks hook).map (·.2)

/-- The hook IDs the plugin holds. -/
def Process.held (p : Process) : List Nat := p.heldBy allVirtualHooks

theorem mem_virtualHooks (hook : VirtualHook) : hook ∈ allVirtualHooks := by
  cases hook <;> decide

/-- A list of hooks that holds nothing. -/
theorem heldBy_of_forall {p : Process} {hooks : List VirtualHook}
    (h : ∀ hook ∈ hooks, p.virtualHooks hook = []) : p.heldBy hooks = [] := by
  unfold Process.heldBy
  rw [List.flatMap_eq_nil_iff]
  intro hook hmem
  rw [h hook hmem, List.map_nil]

theorem heldBy_congr {p q : Process} {hooks : List VirtualHook}
    (h : ∀ hook ∈ hooks, p.virtualHooks hook = q.virtualHooks hook) :
    p.heldBy hooks = q.heldBy hooks := by
  unfold Process.heldBy
  rw [List.flatMap_congr]
  intro hook hmem
  rw [h hook hmem]

/-- Removing hooks gives back what they hold. -/
theorem removeVirtual_eq (p : Process) {hooks : List VirtualHook} (hnodup : hooks.Nodup) :
    p.removeVirtual hooks =
      { p with
        virtualHooks := fun hook => if hook ∈ hooks then [] else p.virtualHooks hook
        released := p.released ++ p.heldBy hooks } := by
  unfold Process.removeVirtual
  induction hooks generalizing p with
  | nil => simp [Process.heldBy]
  | cons hook hooks ih =>
    obtain ⟨hnotin, hrest⟩ := List.nodup_cons.mp hnodup
    rw [List.foldl_cons, ih _ hrest]
    congr 1
    · funext other
      rcases eq_or_ne other hook with rfl | hne
      · simp [hnotin]
      · simp [hne]
    · have hsame : ({ p with
          virtualHooks := Function.update p.virtualHooks hook []
          released := p.released ++ (p.virtualHooks hook).map (·.2) } : Process).heldBy hooks =
            p.heldBy hooks := by
        refine heldBy_congr fun other hmem => Function.update_of_ne ?_ ..
        rintro rfl
        exact hnotin hmem
      rw [hsame]
      simp [Process.heldBy]

/-- One `AddChecked` on a hook that holds nothing: it fails and changes nothing, or the hook
holds the one ID the library handed out. -/
theorem addVirtual_spec (p : Process) (f : LoadFindings) {hook : VirtualHook}
    (h : p.virtualHooks hook = []) :
    p.addVirtual f hook = (p, false) ∨
      ∃ entry id, p.addVirtual f hook =
        ({ p with
          virtualHooks := Function.update p.virtualHooks hook [(entry, id)]
          handed := p.handed ++ [id] }, true) := by
  unfold Process.addVirtual CheckedVirtual.addChecked
  rw [h]
  cases f.entry hook with
  | none => simp [← h]
  | some entry =>
    cases f.khook with
    | false => simp [← h]
    | true =>
      cases hid : f.hookId hook with
      | none => simp [← h]
      | some id => exact Or.inr ⟨entry, id, by simp⟩

/-- **Adding.** The hooks before the first failure hold one ID each, in the order the library
handed them out; on success that is all of them. -/
theorem addVirtuals_spec (p : Process) (f : LoadFindings) {hooks : List VirtualHook}
    (hnodup : hooks.Nodup) (hnone : ∀ hook ∈ hooks, p.virtualHooks hook = []) :
    ∃ v ids, (Process.addVirtuals f p hooks).1 =
        { p with virtualHooks := v, handed := p.handed ++ ids } ∧
      (∀ hook, hook ∉ hooks → v hook = p.virtualHooks hook) ∧
      ids = hooks.flatMap (fun hook => (v hook).map (·.2)) ∧
      ((Process.addVirtuals f p hooks).2 = true → ∀ hook ∈ hooks, ∃ entry id,
        v hook = [(entry, id)]) := by
  induction hooks generalizing p with
  | nil =>
    refine ⟨p.virtualHooks, [], ?_, fun _ _ => rfl, rfl, fun _ _ h => nomatch h⟩
    simp [Process.addVirtuals]
  | cons hook hooks ih =>
    obtain ⟨hnotin, hrest⟩ := List.nodup_cons.mp hnodup
    unfold Process.addVirtuals
    rcases addVirtual_spec p f (hnone hook List.mem_cons_self) with hfail | ⟨entry, id, hadd⟩
    · rw [hfail]
      refine ⟨p.virtualHooks, [], ?_, fun _ _ => rfl, ?_, fun h => nomatch h⟩
      · simp
      · symm
        rw [List.flatMap_eq_nil_iff]
        intro other hmem
        rw [hnone other hmem, List.map_nil]
    · rw [hadd]
      have hnone' : ∀ other ∈ hooks,
          Function.update p.virtualHooks hook [(entry, id)] other = [] := by
        intro other hmem
        rw [Function.update_of_ne (by rintro rfl; exact hnotin hmem)]
        exact hnone other (List.mem_cons_of_mem _ hmem)
      obtain ⟨v, ids, hq, hv, hids, hok⟩ := ih
        { p with
          virtualHooks := Function.update p.virtualHooks hook [(entry, id)]
          handed := p.handed ++ [id] } hrest hnone'
      have hself : v hook = [(entry, id)] := by
        rw [hv hook hnotin]
        exact Function.update_self ..
      refine ⟨v, id :: ids, ?_, fun other hother => ?_, ?_, fun hsucc other hmem => ?_⟩
      · simp only [if_true]
        rw [hq]
        simp
      · rw [List.mem_cons, not_or] at hother
        rw [hv other hother.2]
        exact Function.update_of_ne hother.1 ..
      · rw [List.flatMap_cons, hself, hids]
        rfl
      · rcases List.mem_cons.mp hmem with rfl | hmem
        · exact ⟨entry, id, hself⟩
        · exact hok hsucc other hmem

/-! ## Nothing set up -/

/-- A world no hook and no call has reached yet. -/
structure World.Unbuilt (w : World) : Prop where
  identity : w.identity = {}
  hooks : w.hooks = {}
  plugin : w.plugin = {}
  bridge : w.bridge = {}
  draining : w.draining = []
  journal : w.journal = {}
  states : w.avatar.states = fun _ => {}
  lastAvatarTable : w.avatar.lastAvatarTable = none

/-- Such a world, with no virtual hook and no listener on it, and no hook ID kept. -/
structure Process.Vacant (p : Process) : Prop where
  virtual : ∀ hook, p.virtualHooks hook = []
  listeners : p.listeners = 0
  ids : p.handed = p.released
  world : p.world.Unbuilt

/-- Nothing is set up. -/
structure Process.Absent (p : Process) : Prop extends p.Vacant where
  log : p.logOpen = false
  schema : p.schemaReady = false
  pawnHandle : p.botPawnHandleOffset = -1
  utilRemove : p.utilRemove = none
  entitySystem : p.entitySystemGlobal = none
  detours : p.detours = {}
  stringTables : p.world.avatar.networkStringTables = false
  pointers : p.world.engine.entitySystem = false ∧ p.world.engine.utilRemove = false
  ready : p.world.manager.ready = false

variable {p : Process} {f : LoadFindings}

theorem absent_start (now : UInt64) : (Process.start now).Absent where
  virtual _ := rfl
  listeners := rfl
  ids := rfl
  world := ⟨rfl, rfl, rfl, rfl, rfl, rfl, rfl, rfl⟩
  log := rfl
  schema := rfl
  pawnHandle := rfl
  utilRemove := rfl
  entitySystem := rfl
  detours := rfl
  stringTables := rfl
  pointers := ⟨rfl, rfl⟩
  ready := rfl

/-- The four resets of a failing load leave nothing. -/
theorem Process.Vacant.absent_reset (h : p.Vacant) (hd : p.detours = {})
    (hr : p.world.manager.ready = false) :
    ((p.setStringTableContainer false).resetEntityAccess.resetSchema.closeLog).Absent where
  virtual := h.virtual
  listeners := h.listeners
  ids := h.ids
  world := ⟨h.world.identity, h.world.hooks, h.world.plugin, h.world.bridge, h.world.draining,
    h.world.journal, h.world.states, h.world.lastAvatarTable⟩
  log := rfl
  schema := rfl
  pawnHandle := rfl
  utilRemove := rfl
  entitySystem := rfl
  detours := hd
  stringTables := rfl
  pointers := ⟨rfl, rfl⟩
  ready := hr

/-! ## Unloading -/

/-- The world's part of a full unload takes a world that was never reached to one. -/
theorem unbuilt_unload {w : World} (h : w.Unbuilt) (pass : PassEnv) (now : UInt64) :
    (w.unload pass true now).Unbuilt ∧ (w.unload pass true now).manager.ready = false := by
  have hl : w.plugin.loaded = false := by rw [h.plugin]
  unfold World.unload
  rw [if_neg (by simp [hl]), if_neg (by simp)]
  refine ⟨⟨rfl, h.hooks, ?_, h.bridge, h.draining, h.journal, rfl, rfl⟩, rfl⟩
  change { w.plugin with hookedGameServer := none, startChangeLevelHook := [] } = _
  rw [h.plugin]

/-- The part of an unload that gives up only stops the manager. -/
theorem unload_false {w : World} (h : w.Unbuilt) (pass : PassEnv) (now : UInt64) :
    w.unload pass false now = w.withManager { w.manager with ready := false } := by
  have hl : w.plugin.loaded = false := by rw [h.plugin]
  unfold World.unload
  rw [if_neg (by simp [hl]), if_pos (by simp)]

theorem removeVirtualHooks_of_vacant (h : p.Vacant) : p.removeVirtualHooks true = (p, true) := by
  have hall : p.heldBy allVirtualHooks = [] := heldBy_of_forall fun hook _ => h.virtual hook
  unfold Process.removeVirtualHooks
  rw [removeVirtual_eq p (by decide), hall]
  simp only [Bool.not_true, Bool.false_eq_true, if_false, Prod.mk.injEq, and_true,
    Process.withWorld, List.append_nil]
  have hv : (fun hook => if hook ∈ allVirtualHooks then [] else p.virtualHooks hook) =
      p.virtualHooks := by
    funext hook
    rw [if_pos (mem_virtualHooks hook), h.virtual hook]
  have hp : { p.world.plugin with startChangeLevelHook := [] } = p.world.plugin := by
    rw [h.world.plugin]
  rw [hv, hp]

/-- Outside every hook the detours can be removed. -/
theorem removeDetours_of_vacant (h : p.Vacant) :
    p.removeDetours = ({ p with detours := {} }, true) := by
  unfold Process.removeDetours Process.hookDepth
  rw [h.world.hooks]
  rfl

theorem Process.Vacant.withDetours (h : p.Vacant) (d : Detours) :
    ({ p with detours := d } : Process).Vacant :=
  ⟨h.virtual, h.listeners, h.ids, h.world⟩

/-- **Unloading.** What a load has set up apart from the hooks is taken down again. -/
theorem absent_unload_of_vacant (h : p.Vacant) (maxlen : Nat) (pass : PassEnv) (now : UInt64) :
    (p.unload maxlen true pass now).1.Absent := by
  have hl : p.world.plugin.loaded = false := by rw [h.world.plugin]
  have hd := h.withDetours {}
  obtain ⟨hworld, hready⟩ := unbuilt_unload h.world pass now
  unfold Process.unload
  rw [if_neg (by simp [hl]), removeDetours_of_vacant h]
  dsimp only
  rw [if_neg (by simp), removeVirtualHooks_of_vacant hd]
  dsimp only
  rw [if_neg (by simp)]
  exact Process.Vacant.absent_reset (p := ({ p with detours := {} } : Process).withWorld _)
    ⟨h.virtual, h.listeners, h.ids, hworld⟩ rfl hready

/-- An unload of an absent plugin leaves it absent. -/
theorem absent_unload (h : p.Absent) (maxlen : Nat) (khook : Bool) (pass : PassEnv)
    (now : UInt64) : (p.unload maxlen khook pass now).1.Absent := by
  cases khook with
  | true => exact absent_unload_of_vacant h.toVacant maxlen pass now
  | false =>
    have hl : p.world.plugin.loaded = false := by rw [h.world.plugin]
    unfold Process.unload
    rw [if_neg (by simp [hl]), removeDetours_of_vacant h.toVacant]
    dsimp only
    rw [if_neg (by simp)]
    unfold Process.removeVirtualHooks
    dsimp only
    rw [if_pos (by simp), if_pos (by simp), unload_false h.world]
    exact
      { virtual := h.virtual
        listeners := h.listeners
        ids := h.ids
        world := ⟨h.world.identity, h.world.hooks, h.world.plugin, h.world.bridge,
          h.world.draining, h.world.journal, h.world.states, h.world.lastAvatarTable⟩
        log := h.log
        schema := h.schema
        pawnHandle := h.pawnHandle
        utilRemove := h.utilRemove
        entitySystem := h.entitySystem
        detours := rfl
        stringTables := h.stringTables
        pointers := h.pointers
        ready := rfl }

/-! ## Everything set up -/

/-- What the loaded plugin's world starts from. -/
def LoadFindings.env (f : LoadFindings) (p : Process) : LoadEnv where
  document := f.document
  botMode := (Settings.load f.config).botMode
  fakePingEnabled := (Settings.load f.config).fakePingEnabled
  fakePingMinimum := (Settings.load f.config).fakePingMin
  fakePingMaximum := (Settings.load f.config).fakePingMax
  initTime := f.initTime
  poolTime := f.poolTime
  engine := { f.engine with
    entitySystem := p.entitySystemGlobal.isSome, utilRemove := p.utilRemove.isSome }
  networkStringTables := f.networkStringTables
  tables := f.tables
  added := f.added
  late := f.late
  calls := f.calls
  times := f.times

/-- The table entry a publication writes. -/
def Signature.of (s : Bytes × Option Nat) : Signature where
  name := copyText _ (some s.1)
  address := s.2.getD 0

/-- Player mode is on, or will be on the next level. -/
def World.WantsDisguise (w : World) : Prop :=
  w.plugin.identityMode = .player ∨ w.plugin.startInPlayerMode = true

/-- Everything is set up. -/
structure Process.Installed (p : Process) : Prop where
  log : p.logOpen = true
  detours : p.detours.Matched
  scriptIsBot : p.detours.active .scriptIsBot = true →
    p.detours.active .pack = true ∧ p.utilRemove.isSome = true
  virtual : ∀ hook, ∃ entry id, p.virtualHooks hook = [(entry, id)]
  listeners : p.listeners = 1
  ids : p.handed = p.released ++ p.held
  signatures : p.signatures = p.published.map Signature.of
  loaded : p.world.plugin.loaded = true
  disguise : p.world.WantsDisguise → p.missingDependencies = []

/-! ## Loading -/

/-- Publishing fills the table while there is room. -/
theorem publish_eq (p : Process) {list : List (Bytes × Option Nat)}
    (h : p.signatures.length + list.length ≤ kMaxSigs) :
    list.foldl (fun p s => p.publishSignature s.1 s.2) p =
      { p with signatures := p.signatures ++ list.map Signature.of } := by
  induction list generalizing p with
  | nil => simp
  | cons s list ih =>
    rw [List.length_cons] at h
    have hroom : p.signatures.length < kMaxSigs := by omega
    have hone : p.publishSignature s.1 s.2 =
        { p with signatures := p.signatures ++ [Signature.of s] } := by
      unfold Process.publishSignature
      rw [if_pos hroom]
      rfl
    rw [List.foldl_cons, hone, ih]
    · simp
    · rw [List.length_append, List.length_singleton]
      omega

/-- `InstallVirtualHooks` leaves one ID on each hook, or has given every ID back. -/
theorem installVirtualHooks_spec (h : p.Vacant) (hk : f.khook = true) :
    (∃ v, p.installVirtualHooks f =
        ({ p with
          virtualHooks := v
          handed := p.handed ++ Process.held { p with virtualHooks := v } }, true) ∧
          ∀ hook, ∃ entry id, v hook = [(entry, id)]) ∨
      ∃ ids, p.installVirtualHooks f =
        ({ p with handed := p.handed ++ ids, released := p.released ++ ids }, false) := by
  have hnodup : allVirtualHooks.Nodup := by decide
  obtain ⟨v, ids, hq, -, hids, hok⟩ := addVirtuals_spec p f hnodup fun hook _ => h.virtual hook
  unfold Process.installVirtualHooks
  cases hb : (Process.addVirtuals f p allVirtualHooks).2 with
  | true =>
    refine Or.inl ⟨v, ?_, fun hook => hok hb hook (mem_virtualHooks hook)⟩
    dsimp only
    rw [if_pos hb]
    refine Prod.ext ?_ hb
    rw [hq, hids]
    rfl
  | false =>
    refine Or.inr ⟨ids, ?_⟩
    have hheld : ({ p with virtualHooks := v, handed := p.handed ++ ids } : Process).heldBy
        allVirtualHooks = ids := hids.symm
    have hnone : (fun hook => if hook ∈ allVirtualHooks then [] else v hook) = p.virtualHooks := by
      funext hook
      rw [if_pos (mem_virtualHooks hook), h.virtual hook]
    have hp : { p.world.plugin with startChangeLevelHook := [] } = p.world.plugin := by
      rw [h.world.plugin]
    dsimp only
    rw [if_neg (by simp [hb]), hq, hk]
    unfold Process.removeVirtualHooks
    rw [removeVirtual_eq _ (by decide), hheld]
    simp only [Bool.not_true, Bool.false_eq_true, if_false, Process.withWorld, hp]
    rw [hnone]

/-- What a load has made of the world when it comes to the slot manager. -/
structure World.Prepared (w : World) (env : LoadEnv) : Prop extends w.Unbuilt where
  manager : w.manager.fakePingEnabled = env.fakePingEnabled ∧
    w.manager.fakePingMinimum = env.fakePingMinimum ∧
    w.manager.fakePingMaximum = env.fakePingMaximum
  stringTables : w.avatar.networkStringTables = env.networkStringTables
  tables : w.avatar.tables = env.tables
  engine : w.engine = env.engine

/-- The world that `Load` builds before it looks at the game server. -/
def LoadEnv.base (env : LoadEnv) : World where
  manager := (FakeClientManager.configureFakePing
    { slots := fun _ => FakeClientManager.freshSlot env.initTime } env.fakePingEnabled
      env.fakePingMinimum env.fakePingMaximum).init env.initTime
  botInfo := (BotInfoStore.load env.document env.poolTime).1
  avatar :=
    { networkStringTables := env.networkStringTables
      states := fun _ => {}
      lastAvatarTable := none
      tables := env.tables }
  engine := env.engine

theorem base_of_prepared {w : World} {env : LoadEnv} (h : w.Prepared env) :
    { w with
      manager := w.manager.init env.initTime
      botInfo := (BotInfoStore.load env.document env.poolTime).1 } = env.base := by
  obtain ⟨⟨hidentity, hhooks, hplugin, hbridge, hdraining, hjournal, hstates, hlast⟩,
    ⟨hen, hmin, hmax⟩, hst, htables, hengine⟩ := h
  obtain ⟨m, botInfo, identity, hooks, plugin, avatar, bridge, draining, engine, journal⟩ := w
  obtain ⟨slots, rng, next, ready, attached, en, lo, hi⟩ := m
  obtain ⟨nst, states, last, tables⟩ := avatar
  dsimp only at *
  subst hidentity hhooks hplugin hbridge hdraining hjournal hstates hlast hen hmin hmax hst htables
    hengine
  rfl

/-- The end of a load builds `World.load` from it. -/
theorem world_finishLoad {p : Process} {q : Process} (hw : p.world = (f.env q).base) :
    (p.finishLoad f (Settings.load f.config).botMode).world = World.load (f.env q) := by
  unfold Process.finishLoad
  rw [hw]
  rfl

/-- What a load has set up when it comes to the slot manager. -/
structure Process.Staged (p : Process) (f : LoadFindings) : Prop extends p.Vacant where
  log : p.logOpen = true
  detours : p.detours.Matched
  scriptIsBot : p.detours.active .scriptIsBot = true →
    p.detours.active .pack = true ∧ p.utilRemove.isSome = true
  prepared : p.world.Prepared (f.env p)
  disguise : (Settings.load f.config).botMode = false → p.missingDependencies = []

/-- A load has failed and left nothing, or has set everything up. -/
def LoadFindings.Outcome (f : LoadFindings) (r : Process × Option Bytes) : Prop :=
  match r.2 with
  | some _ => r.1.Absent
  | none => r.1.Installed ∧ r.1.world = World.load (f.env r.1)

/-- The manager, the signatures and the pool, all anew. -/
def Process.filled (p : Process) (f : LoadFindings) : Process :=
  { p with
    signatures := p.published.map Signature.of
    world := (f.env p).base }

theorem activate_eq (h : p.Staged f) (maxlen : Nat) (botMode : Bool) :
    p.activate maxlen f botMode =
      if !((p.filled f).installVirtualHooks f).2 then
        ((((p.filled f).installVirtualHooks f).1.unload 256 f.khook f.pass f.shutdownTime).1,
          some (snprintf maxlen (ascii "KHook virtual hooks failed")))
      else (((p.filled f).installVirtualHooks f).1.finishLoad f botMode, none) := by
  have hroom : (p.initManager f.initTime).signatures.length +
      (p.initManager f.initTime).published.length ≤ kMaxSigs :=
    show 0 + 8 ≤ 8 by decide
  have hfill : ((p.initManager f.initTime).published.foldl
      (fun p s => p.publishSignature s.1 s.2) (p.initManager f.initTime)) =
        { p.initManager f.initTime with signatures := p.published.map Signature.of } := by
    rw [publish_eq _ hroom]
    rfl
  have hworld := base_of_prepared h.prepared
  unfold Process.activate
  dsimp only
  rw [hfill]
  unfold Process.filled
  rw [← hworld]
  rfl

theorem unbuilt_base (env : LoadEnv) : env.base.Unbuilt := ⟨rfl, rfl, rfl, rfl, rfl, rfl, rfl, rfl⟩

/-- Adopting the bots that are there already leaves the plugin's own variables. -/
theorem plugin_adopt (f : LoadFindings) (list : List Slot) (w : World) :
    (list.foldl (fun w slot => w.adoptExistingBot (f.calls slot) (f.times slot) slot) w).plugin =
      w.plugin := by
  induction list generalizing w with
  | nil => rfl
  | cons slot list ih =>
    rw [List.foldl_cons, ih]
    exact (confined_adoptExistingBot w _ _ slot).plugin

/-- A load configured for Bot mode neither enters Player mode nor remembers it. -/
theorem wantsDisguise_finishLoad {p : Process} (h : p.world.Unbuilt) :
    ¬ (p.finishLoad f true).world.WantsDisguise := by
  have hlate : ∀ w : World, ¬ w.WantsDisguise → ¬ (if f.late then allSlots.foldl
      (fun w slot => w.adoptExistingBot (f.calls slot) (f.times slot) slot) w
        else w).WantsDisguise := by
    intro w hw
    unfold World.WantsDisguise at hw ⊢
    split
    · rwa [plugin_adopt]
    · exact hw
  have hattach : ∀ server hook, ¬ ({ p.world with plugin := { p.world.plugin with
      hookedGameServer := server, startChangeLevelHook := hook } } : World).WantsDisguise := by
    intro server hook
    unfold World.WantsDisguise
    rw [h.plugin]
    simp
  have hserver : ¬ (if p.world.engine.gameServer.isSome then
      (if (p.world.attachGameServerHook f.added).2 ∧ !true then
        { (p.world.attachGameServerHook f.added).1 with plugin :=
          { (p.world.attachGameServerHook f.added).1.plugin with identityMode := .player } }
      else (p.world.attachGameServerHook f.added).1)
      else { p.world with plugin := { p.world.plugin with startInPlayerMode := !true } } :
        World).WantsDisguise := by
    obtain ⟨server, hook, he⟩ := attachGameServerHook_fst p.world f.added
    split
    · rw [if_neg (by simp), he]
      exact hattach server hook
    · unfold World.WantsDisguise
      rw [h.plugin]
      simp
  exact hlate _ hserver

theorem activate_spec (h : p.Staged f) (hk : f.khook = true) (maxlen : Nat) :
    f.Outcome (p.activate maxlen f (Settings.load f.config).botMode) := by
  have hvacant : (p.filled f).Vacant :=
    ⟨h.virtual, h.listeners, h.ids, unbuilt_base _⟩
  rw [activate_eq h]
  rcases installVirtualHooks_spec hvacant hk with ⟨v, hinstall, hv⟩ | ⟨ids, hinstall⟩
  · rw [hinstall, if_neg (by simp)]
    have hbot : (Settings.load f.config).botMode = true →
        ¬ (Process.finishLoad { p.filled f with
            virtualHooks := v
            handed := (p.filled f).handed ++
              Process.held { p.filled f with virtualHooks := v } } f
          (Settings.load f.config).botMode).world.WantsDisguise := fun hmode hwants => by
      rw [hmode] at hwants
      exact wantsDisguise_finishLoad (unbuilt_base _) hwants
    refine ⟨?_, world_finishLoad rfl⟩
    exact
      { log := h.log
        detours := h.detours
        scriptIsBot := h.scriptIsBot
        virtual := hv
        listeners := congrArg (· + 1) h.listeners
        ids := congrArg (· ++ Process.held { p.filled f with virtualHooks := v }) h.ids
        signatures := rfl
        loaded := rfl
        disguise := fun hwants => by
          cases hmode : (Settings.load f.config).botMode with
          | false => exact h.disguise hmode
          | true => exact absurd hwants (hbot hmode) }
  · have hback : ({ p.filled f with
        handed := (p.filled f).handed ++ ids
        released := (p.filled f).released ++ ids } : Process).Vacant :=
      ⟨h.virtual, h.listeners, congrArg (· ++ ids) h.ids, unbuilt_base _⟩
    rw [hinstall, if_pos (by simp), hk]
    exact absent_unload_of_vacant hback 256 f.pass f.shutdownTime

/-! ## Stages -/

/-- `CanEnableDisguise` agrees exactly when nothing is missing. -/
theorem canEnableDisguise_eq_none (p : Process) (maxlen : Nat) :
    p.canEnableDisguise maxlen = none ↔ p.missingDependencies = [] := by
  have hnames : ∀ name ∈ p.missingDependencies, name ≠ [] := by
    intro name hmem
    obtain ⟨d, hd, rfl⟩ := List.mem_map.mp hmem
    have hall : ∀ name ∈ p.dependencies.map (·.2), name ≠ [] :=
      show ∀ name ∈ [Detour.quota.symbol, Detour.voters.symbol, Detour.joinTeam.symbol,
        Detour.humanTeam.symbol, Detour.pack.symbol, Detour.endMatch.symbol, ascii "UTIL_Remove",
        ascii "entity-system reference", ascii "controller pawn handle"], name ≠ [] by decide
    exact hall d.2 (List.mem_map_of_mem (List.mem_of_mem_filter hd))
  unfold Process.canEnableDisguise
  dsimp only
  rw [← foldl_appendName_eq_nil hnames]
  split <;> simp_all

/-- What the settings, the string tables and the engine have made of the world. -/
structure World.Configured (w : World) (f : LoadFindings) : Prop extends w.Unbuilt where
  manager : w.manager.fakePingEnabled = (Settings.load f.config).fakePingEnabled ∧
    w.manager.fakePingMinimum = (Settings.load f.config).fakePingMin ∧
    w.manager.fakePingMaximum = (Settings.load f.config).fakePingMax
  ready : w.manager.ready = false
  stringTables : w.avatar.networkStringTables = f.networkStringTables
  tables : w.avatar.tables = f.tables
  engine : w.engine = { f.engine with entitySystem := false, utilRemove := false }

/-- A load as the gamedata finds it. -/
structure Process.Opened (p : Process) (f : LoadFindings) : Prop extends p.Vacant where
  log : p.logOpen = true
  detours : p.detours = {}
  configured : p.world.Configured f

/-- A load whose gamedata is refused has only looked offsets up; otherwise it has found its
targets, with every detour still as it was. -/
theorem prepare_cases (p : Process) (maxlen : Nat) (f : LoadFindings) :
    (∃ error offsets slot, p.prepare maxlen f =
        ({ p with offsets := offsets, vtableSlotClientSetName := slot }, some error)) ∨
      ∃ offsets slot remove system target offset, p.prepare maxlen f =
        ({ p with
          offsets := offsets
          vtableSlotClientSetName := slot
          utilRemove := remove
          entitySystemGlobal := system
          detours := { p.detours with
            target := target, pickNewTeamsOnResetOffset := offset } }, none) := by
  unfold Process.prepare
  cases f.gamedata with
  | none => exact Or.inl ⟨_, p.offsets, p.vtableSlotClientSetName, rfl⟩
  | some g =>
    dsimp only
    unfold Process.loadFromGamedata
    dsimp only
    by_cases hinvalid : (Process.requiredOffsets.filter (Process.invalidOffset g)).foldl
        appendName [] ≠ []
    · rw [if_pos hinvalid]
      exact Or.inl ⟨_, _, _, rfl⟩
    · rw [if_neg hinvalid]
      dsimp only
      split
      · exact Or.inl ⟨_, _, _, rfl⟩
      · right
        unfold Process.resolveUtilRemoveAndEntSys
        dsimp only
        split <;> exact ⟨_, _, _, _, _, _, rfl⟩

theorem prepared_of_configured {w : World} (h : w.Configured f) (q : Process) :
    (w.withEngine { w.engine with
      entitySystem := q.entitySystemGlobal.isSome, utilRemove := q.utilRemove.isSome }).Prepared
        (f.env q) where
  toUnbuilt := ⟨h.identity, h.hooks, h.plugin, h.bridge, h.draining, h.journal, h.states,
    h.lastAvatarTable⟩
  manager := h.manager
  stringTables := h.stringTables
  tables := h.tables
  engine := by
    unfold withEngine
    dsimp only
    rw [h.engine]
    rfl

/-- With what it was prepared with, a load has its detours on their targets. -/
theorem installPrepared_opened {offsets : Bytes → Int} {slot : Int} {remove system : Option Nat}
    {target : Detour → Option Nat} {offset : Int} {q : Process} (h : p.Opened f)
    (hq : q = { p with
      offsets := offsets
      vtableSlotClientSetName := slot
      utilRemove := remove
      entitySystemGlobal := system
      detours := { p.detours with target := target, pickNewTeamsOnResetOffset := offset } }) :
    (q.installPrepared f).Vacant ∧ (q.installPrepared f).logOpen = true ∧
      (q.installPrepared f).detours.Matched ∧
      ((q.installPrepared f).detours.active .scriptIsBot = true →
        (q.installPrepared f).detours.active .pack = true ∧ q.utilRemove.isSome = true) ∧
      (q.installPrepared f).world.Prepared (f.env q) := by
  subst hq
  have hprepared := fun q => prepared_of_configured h.configured q
  have hoff : ∀ hook, ({ p.detours with
      target := target, pickNewTeamsOnResetOffset := offset } : Detours).active hook = false := by
    intro hook
    simp [h.detours]
  obtain ⟨hmatched, hscript⟩ := @Detours.installPrepared_spec _ f.installs hoff remove.isSome
  exact ⟨⟨h.virtual, h.listeners, h.ids, (hprepared _).toUnbuilt⟩, h.log, hmatched, hscript,
    hprepared _⟩

theorem prepareAndInstall_spec (h : p.Opened f) (hk : f.khook = true) (maxlen : Nat) :
    f.Outcome (p.prepareAndInstall maxlen f) := by
  unfold Process.prepareAndInstall
  dsimp only
  rcases prepare_cases p maxlen f with ⟨error, offsets, slot, hp⟩ |
    ⟨offsets, slot, remove, system, target, offset, hp⟩
  · rw [hp]
    exact Process.Vacant.absent_reset (p := { p with
      offsets := offsets, vtableSlotClientSetName := slot })
        ⟨h.virtual, h.listeners, h.ids, h.world⟩ h.detours h.configured.ready
  · obtain ⟨hvacant, hlog, hmatched, hscript, hprepared⟩ :=
      installPrepared_opened h (congrArg Prod.fst hp)
    have hready : ((p.prepare maxlen f).1.installPrepared f).world.manager.ready = false := by
      rw [hp]
      exact h.configured.ready
    rw [hp] at *
    dsimp only at *
    split
    · -- a dependency of Player mode is missing: everything is taken down again
      rw [removeDetours_of_vacant hvacant]
      exact (hvacant.withDetours {}).absent_reset rfl hready
    · rename_i hcan
      refine activate_spec ⟨hvacant, hlog, hmatched, hscript, hprepared, fun hmode => ?_⟩ hk
        maxlen
      rw [hmode, if_neg (by simp), canEnableDisguise_eq_none] at hcan
      exact hcan

/-- The engine and the tables are the world's own: meeting them sets nothing up. -/
theorem Process.Absent.meet (h : p.Absent) (f : LoadFindings) : (p.meet f).Absent := by
  have hplugin : { p.world.plugin with identityMode := .bot, startInPlayerMode := false } =
      ({} : HiderPlugin) := by
    rw [h.world.plugin]
  exact
    { virtual := h.virtual
      listeners := h.listeners
      ids := h.ids
      world := ⟨h.world.identity, h.world.hooks, hplugin, h.world.bridge, h.world.draining,
        h.world.journal, h.world.states, h.world.lastAvatarTable⟩
      log := h.log
      schema := h.schema
      pawnHandle := h.pawnHandle
      utilRemove := h.utilRemove
      entitySystem := h.entitySystem
      detours := h.detours
      stringTables := h.stringTables
      pointers := h.pointers
      ready := h.ready }

/-- A load that opened the log, and perhaps the schema, closes them. -/
theorem Process.Absent.close (h : p.Absent) {log schema : Bool} (flags : Int)
    (hlog : log = false) (hschema : schema = false) :
    ({ p with logOpen := log, schemaReady := schema, baseEntityFlagsOffset := flags } :
      Process).Absent :=
  { virtual := h.virtual
    listeners := h.listeners
    ids := h.ids
    world := h.world
    log := hlog
    schema := hschema
    pawnHandle := h.pawnHandle
    utilRemove := h.utilRemove
    entitySystem := h.entitySystem
    detours := h.detours
    stringTables := h.stringTables
    pointers := h.pointers
    ready := h.ready }

/-- The settings and the string tables are taken up by a load that is otherwise absent. -/
theorem opened_applySettings (h : (p.meet f).Absent) (hp : p.Absent) (schema : Bool)
    (flags pawn : Int) :
    (({ p.meet f with
      logOpen := true
      schemaReady := schema
      baseEntityFlagsOffset := flags
      botPawnHandleOffset := pawn } : Process).applySettings f).Opened f where
  virtual := h.virtual
  listeners := h.listeners
  ids := h.ids
  world := ⟨h.world.identity, h.world.hooks, h.world.plugin, h.world.bridge, h.world.draining,
    h.world.journal, h.world.states, h.world.lastAvatarTable⟩
  log := rfl
  detours := h.detours
  configured :=
    { toUnbuilt := ⟨h.world.identity, h.world.hooks, h.world.plugin, h.world.bridge,
        h.world.draining, h.world.journal, h.world.states, h.world.lastAvatarTable⟩
      manager := ⟨rfl, rfl, rfl⟩
      ready := h.ready
      stringTables := rfl
      tables := rfl
      engine := by
        change { f.engine with
          entitySystem := p.world.engine.entitySystem, utilRemove := p.world.engine.utilRemove } = _
        rw [hp.pointers.1, hp.pointers.2] }

/-- **Loading.** A load of an absent plugin fails and leaves it absent, or leaves it installed
in the world the settings, the pool and the engine say. -/
theorem load_spec (h : p.Absent) (maxlen : Nat) (f : LoadFindings) :
    f.Outcome (p.load maxlen f) := by
  have hmeet := h.meet f
  unfold Process.load
  dsimp only
  cases f.interfaces with
  | some error => exact hmeet
  | none =>
    cases f.log with
    | some error => exact hmeet
    | none =>
      dsimp only
      cases hk : f.khook with
      | false => exact hmeet.close _ rfl hmeet.schema
      | true =>
        rw [if_neg (by simp)]
        unfold Process.loadFromSchema
        cases f.fieldsReady with
        | false => exact hmeet.close f.baseEntityFlagsOffset rfl rfl
        | true =>
          exact prepareAndInstall_spec (opened_applySettings hmeet h f.schemaReady _ _) hk maxlen

/-! ## Events -/

theorem wantsDisguise_of_binding {w w' : World} (h : w'.binding = w.binding) :
    w'.WantsDisguise ↔ w.WantsDisguise := by
  have hmode : w'.plugin.identityMode = w.plugin.identityMode := congrArg Binding.identityMode h
  have hstart : w'.plugin.startInPlayerMode = w.plugin.startInPlayerMode :=
    congrArg Binding.startInPlayerMode h
  unfold World.WantsDisguise
  rw [hmode, hstart]

theorem wantsDisguise_attach (w : World) (added : Bool) :
    (w.attachGameServerHook added).1.WantsDisguise ↔ w.WantsDisguise := by
  obtain ⟨server, hook, h⟩ := attachGameServerHook_fst w added
  rw [h]
  exact Iff.rfl

theorem wantsDisguise_commit_bot (w : World) : ¬ (w.commitIdentityMode .bot).WantsDisguise := by
  have h := binding_commitIdentityMode w .bot
  have hmode : (w.commitIdentityMode .bot).plugin.identityMode = .bot :=
    congrArg Binding.identityMode h
  have hstart : (w.commitIdentityMode .bot).plugin.startInPlayerMode = false :=
    congrArg Binding.startInPlayerMode h
  unfold World.WantsDisguise
  rw [hmode, hstart]
  simp

/-- A gate that refuses lets no request through. -/
theorem wantsDisguise_setIdentityMode {w : World} (h : ¬ w.WantsDisguise) (added : Bool)
    (mode : IdentityMode) :
    ¬ (w.setIdentityMode { canEnable := false, added := added } mode).1.WantsDisguise := by
  cases mode with
  | bot => exact wantsDisguise_commit_bot w
  | player => exact h

/-- **Mode.** While `CanEnableDisguise` refuses, a plugin that is in Bot mode stays there, and
no level start will change that. -/
theorem wantsDisguise_step {w : World} (hl : w.plugin.loaded = true) (h : ¬ w.WantsDisguise)
    (e : Event) (p : Process) : ¬ (w.step (e.reach false p)).WantsDisguise := by
  by_cases hc : (e.reach false p).changesMode = false
  · rwa [wantsDisguise_of_binding (binding_step hl hc)]
  · cases e with
    | levelInit gate =>
      obtain ⟨reset, hreset, -, hinit⟩ :=
        onLevelInit_eq w { canEnable := false, added := gate.added }
      have hr : ¬ (reset.attachGameServerHook gate.added).1.WantsDisguise := by
        rwa [wantsDisguise_attach, wantsDisguise_of_binding hreset]
      change ¬ (w.onLevelInit { canEnable := false, added := gate.added }).WantsDisguise
      rw [hinit]
      split
      · exact wantsDisguise_commit_bot _
      · split
        · exact wantsDisguise_setIdentityMode hr _ .player
        · exact hr
    | levelShutdown env =>
      have hmode : w.isDisguiseEnabled = false := by
        unfold World.WantsDisguise at h
        unfold isDisguiseEnabled
        simpa using fun hp => h (Or.inl hp)
      unfold World.WantsDisguise at h ⊢
      change ¬ ((if w.isDisguiseEnabled then IdentityMode.bot else w.plugin.identityMode) =
        .player ∨ (w.plugin.startInPlayerMode || w.isDisguiseEnabled) = true)
      simpa [hmode] using h
    | bhSetMode gate mode =>
      change ¬ (w.bhSetMode { canEnable := false, added := gate.added } mode).1.WantsDisguise
      unfold bhSetMode
      split
      · exact h
      · exact wantsDisguise_setIdentityMode h _ _
    | _ => exact absurd rfl hc

/-- **Events.** Nothing that reaches an installed plugin takes any of it down. -/
theorem installed_event (h : p.Installed) (e : Event) : (p.step (.event e)).Installed := by
  unfold Process.step
  dsimp only
  rw [if_pos h.loaded]
  exact
    { log := h.log
      detours := h.detours
      scriptIsBot := h.scriptIsBot
      virtual := h.virtual
      listeners := h.listeners
      ids := h.ids
      signatures := h.signatures
      loaded := loaded_step h.loaded _
      disguise := fun hwants => by
        by_contra hmissing
        change p.missingDependencies ≠ [] at hmissing
        have hrefuses : (p.canEnableDisguise 512).isNone = false := by
          rw [Bool.eq_false_iff]
          intro hnone
          exact hmissing ((canEnableDisguise_eq_none p 512).mp (Option.isNone_iff_eq_none.mp hnone))
        have hstays := wantsDisguise_step h.loaded (fun hw => hmissing (h.disguise hw)) e p
        rw [hrefuses] at hwants
        exact hstays hwants }

/-! ## Runs -/

/-- What is promised of an event: only a plugin that is not loaded is loaded. -/
def Process.Promised (p : Process) : ProcessEvent → Prop
  | .load .. => p.world.plugin.loaded = false
  | _ => True

/-- An installed plugin whose world is one that `World.load` leads to. -/
def Process.Running (p : Process) : Prop :=
  p.Installed ∧ ∃ (f : LoadFindings) (es : List Event),
    p.world = Runs.exec World.step (World.load (f.env p)) es

theorem unload_installed (h : p.Installed) (maxlen : Nat) (khook : Bool) (pass : PassEnv)
    (now : UInt64) :
    p.unload maxlen khook pass now = (p, some (snprintf maxlen (ascii "Restart required"))) := by
  unfold Process.unload
  rw [if_pos h.loaded]

theorem running_event (h : p.Running) (e : Event) : (p.step (.event e)).Running := by
  obtain ⟨hi, f, es, hw⟩ := h
  refine ⟨installed_event hi e, f, es ++ [e.reach (p.canEnableDisguise 512).isNone p], ?_⟩
  rw [Runs.exec_append, Runs.exec_cons, Runs.exec_nil]
  unfold Process.step
  dsimp only
  rw [if_pos hi.loaded]
  exact congrArg (fun w => World.step w (e.reach (p.canEnableDisguise 512).isNone p)) hw

/-- One event of the server's life. -/
theorem whole_step {e : ProcessEvent} (h : p.Absent ∨ p.Running) (hpromised : p.Promised e) :
    (p.step e).Absent ∨ (p.step e).Running := by
  cases e with
  | load maxlen f =>
    rcases h with h | ⟨hi, -⟩
    · have hload := load_spec h maxlen f
      unfold LoadFindings.Outcome at hload
      change (p.load maxlen f).1.Absent ∨ (p.load maxlen f).1.Running
      split at hload
      · exact Or.inl hload
      · exact Or.inr ⟨hload.1, f, [], hload.2⟩
    · exact absurd (hi.loaded.symm.trans hpromised) (by simp)
  | unload maxlen khook pass now =>
    rcases h with h | h
    · exact Or.inl (absent_unload h maxlen khook pass now)
    · refine Or.inr ?_
      change (p.unload maxlen khook pass now).1.Running
      rw [unload_installed h.1]
      exact h
  | event e =>
    rcases h with h | h
    · refine Or.inl ?_
      have hl : p.world.plugin.loaded = false := by rw [h.world.plugin]
      unfold Process.step
      dsimp only
      rwa [if_neg (by simp [hl])]
    · exact Or.inr (running_event h e)

/-- **A load takes effect whole or not at all.** After every run of loads, unloads and events
nothing of the plugin is set up and every hook ID has been given back, or all of it is: then
the detours are on exactly the published targets, Player mode has all it depends on, and the
world is one `World.load` leads to, whatever loads failed before. A load that reports failure
leaves nothing, one that reports success everything, and an unload of a loaded plugin is refused
and changes nothing. -/
theorem load_whole_or_not {now : UInt64} {es : List ProcessEvent}
    (ha : Runs.Admits Process.step Process.Promised (Process.start now) es) :
    let p := Runs.exec Process.step (Process.start now) es
    (p.Absent ∧ ∀ maxlen (f : LoadFindings), f.Outcome (p.load maxlen f)) ∨
      (p.Running ∧ ∀ maxlen khook pass now, p.unload maxlen khook pass now =
        (p, some (snprintf maxlen (ascii "Restart required")))) := by
  have hwhole := Runs.exec_invariant (I := fun p : Process => p.Absent ∨ p.Running)
    (Or.inl (absent_start now)) (fun p e hp he => whole_step hp he) ha
  rcases hwhole with h | h
  · exact Or.inl ⟨h, load_spec h⟩
  · exact Or.inr ⟨h, unload_installed h.1⟩

/-- A gamedata file in which every name is found. -/
def soundGamedata : Gamedata where
  offset := fun _ => 16
  utilRemoveBytes := some [0x55, 0x48, 0x8B, 0x0D, 0, 0, 0, 0]
  findPattern := some 4096
  resolveRelativeAddress := fun address => some address
  resolveSig := fun _ => some 8192

/-- A load that succeeds, with the ID each virtual hook gets. -/
def soundFindings (hookId : VirtualHook → Option Nat) : LoadFindings where
  gamedata := some soundGamedata
  initTime := 5
  poolTime := 7
  document := some twoIdentities
  entry := fun _ => some 64
  hookId := hookId
  engine := Engine.empty

/-- The library cannot hook the frame on the first load, and can on the second. -/
theorem load_whole_or_not_second :
    (Runs.exec Process.step (Process.start 1)
      [.load 256 (soundFindings fun hook => if hook = .gameFrame then none else some 1),
        .load 256 (soundFindings fun _ => some 2),
        .unload 256 true { found := none, calls := fun _ => {}, now := 0 } 9]).Running := by
  rcases @load_whole_or_not 1
    [.load 256 (soundFindings fun hook => if hook = .gameFrame then none else some 1),
      .load 256 (soundFindings fun _ => some 2),
      .unload 256 true { found := none, calls := fun _ => {}, now := 0 } 9]
    ⟨rfl, rfl, trivial, trivial⟩ with ⟨habsent, -⟩ | ⟨hrunning, -⟩
  · have hloaded := congrArg HiderPlugin.loaded habsent.world.plugin
    exact absurd hloaded (by decide)
  · exact hrunning

end BotHider.Model
