import BotHider.Model.Frames
import BotHider.Registry.Registry

/-!
# BotHider — the plugin refines the registry

`World.registry` reads the registry off the slot records, the slot bindings and
the pool. Each operation of the plugin either leaves it alone or takes registry
steps.

The engine plays no part here: no assumption is made about what it does.
-/

namespace BotHider.Model

open World

/-! ## The abstraction -/

/-- What the registry keeps of a slot's record and its binding. -/
def Holding.of (s : ManagedSlot) (entry : Option Nat) : Holding where
  managed := s.snapshot.managed
  incarnation := s.snapshot.incarnation
  steamId := s.snapshot.steamId
  name := s.snapshot.name.text
  entry := entry
  request := s.avatar
  avatarApplied := s.snapshot.avatarApplied
  avatarSteamId := s.snapshot.avatarSteamId

/-- The registry of a world. -/
def World.registry (w : World) : Registry where
  holding s := .of (w.manager.slots s) (w.identity.slotEntries s)
  steamIds := w.botInfo.entries.map BotEntry.steamId64
  assigned := w.botInfo.assigned
  nextIncarnation := w.manager.nextIncarnation
  issued := w.journal.issued

/-- The registry gets from one world's to the other's by its own steps. -/
abbrev World.Path (w w' : World) : Prop :=
  Relation.ReflTransGen Registry.Step w.registry w'.registry

theorem World.Path.of_eq {w w' : World} (h : w'.registry = w.registry) : w.Path w' := by
  unfold World.Path
  rw [h]

/-- The registry stays, or moves once. -/
abbrev World.Hop (w w' : World) : Prop :=
  Relation.ReflGen Registry.Move w.registry w'.registry

theorem World.Hop.of_eq {w w' : World} (h : w'.registry = w.registry) : w.Hop w' := by
  unfold World.Hop
  rw [h]

theorem World.Hop.path {w w' : World} (h : w.Hop w') : w.Path w' :=
  h.to_reflTransGen.lift id fun _ _ => Registry.Step.move

/-- Who holds what stays, or changes once. -/
abbrev World.Leases (w w' : World) : Prop :=
  Relation.ReflGen Registry.Lease w.registry w'.registry

theorem World.Leases.of_eq {w w' : World} (h : w'.registry = w.registry) : w.Leases w' := by
  unfold World.Leases
  rw [h]

theorem World.Leases.after_eq {w w' w'' : World} (h : w'.registry = w.registry)
    (h' : w'.Leases w'') : w.Leases w'' := by
  unfold World.Leases at h' ⊢
  rwa [h] at h'

theorem World.Leases.hop {w w' : World} (h : w.Leases w') : w.Hop w' :=
  h.mono fun _ _ => Registry.Move.lease

theorem World.Leases.path {w w' : World} (h : w.Leases w') : w.Path w' := h.hop.path

theorem registry_of_native {w w' : World} (h : w'.native = w.native) :
    w'.registry = w.registry :=
  (congrArg World.registry h : w'.native.registry = w.native.registry)

theorem World.Hop.of_native {w w' w'' : World} (h : w.Hop w') (hn : w''.native = w'.native) :
    w.Hop w'' := by
  unfold World.Hop
  rwa [registry_of_native hn]

theorem World.Leases.of_native {w w' w'' : World} (h : w.Leases w')
    (hn : w''.native = w'.native) : w.Leases w'' := by
  unfold World.Leases
  rwa [registry_of_native hn]

theorem registry_of_shell {w w' : World} (h : w'.shell = w.shell) : w'.registry = w.registry :=
  (congrArg World.registry h : w'.shell.registry = w.shell.registry)

theorem registry_of_core {w w' : World} (h : w'.core = w.core) : w'.registry = w.registry :=
  (congrArg World.registry h : w'.core.registry = w.core.registry)

theorem registry_of_hull {w w' : World} (h : w'.hull = w.hull) : w'.registry = w.registry :=
  (congrArg World.registry h : w'.hull.registry = w.hull.registry)

variable {w : World}

/-! ## The slot manager's updates -/

/-- Replacing one slot's record replaces its holding. -/
theorem registry_setSlot (w : World) (slot : Slot) (s : ManagedSlot) :
    (w.withManager (w.manager.setSlot slot s)).registry =
      w.registry.set slot (.of s (w.identity.slotEntries slot)) := by
  refine Registry.ext (funext fun t => ?_) rfl rfl rfl rfl
  rcases eq_or_ne t slot with rfl | ht
  · rw [Registry.set_holding_self]
    simp [registry, withManager]
  · rw [Registry.set_holding_of_ne _ ht]
    simp [registry, withManager, ht]

theorem leases_setSlotName (w : World) (slot : Slot) (name : Option Bytes) :
    w.Leases (w.withManager (w.manager.setSlotName slot name)) := by
  unfold World.Leases
  rw [FakeClientManager.setSlotName, FakeClientManager.modifySnapshot, registry_setSlot]
  exact .single (.rename w.registry slot (copyText kNameLen name).text)

theorem leases_setSyntheticSid {slot : Slot} {sid : UInt64} (hm : w.manager.isManaged slot = true)
    (hnz : sid ≠ 0) (hfresh : w.registry.Fresh slot sid) :
    w.Leases (w.withManager (w.manager.setSyntheticSid slot sid)) := by
  unfold World.Leases
  rw [FakeClientManager.setSyntheticSid, FakeClientManager.modifySnapshot, registry_setSlot]
  exact .single (.renumber w.registry slot sid hm hnz hfresh)

theorem path_publishAvatarState (w : World) (slot : Slot) (applied : Bool) (sid : UInt64) :
    w.Path (w.withManager (w.manager.publishAvatarState slot applied sid)) := by
  unfold World.Path
  rw [FakeClientManager.publishAvatarState, FakeClientManager.modifySnapshot, registry_setSlot]
  exact .single (.publish w.registry slot applied sid)

theorem hop_setAvatarRequest {slot : Slot} (hm : w.manager.isManaged slot = true) {data : Bytes}
    (hlen : data.length ≤ kAvatarMaxBytes) :
    w.Hop (w.withManager (w.manager.setAvatarRequest slot data)) := by
  have heq : (w.withManager (w.manager.setAvatarRequest slot data)).registry =
      w.registry.set slot ((w.registry.holding slot).requested data) := by
    refine Registry.ext (funext fun t => ?_) rfl rfl rfl rfl
    unfold FakeClientManager.setAvatarRequest FakeClientManager.publishAvatarState
      FakeClientManager.modifySnapshot
    rcases eq_or_ne t slot with rfl | ht
    · rw [Registry.set_holding_self]
      simp [registry, withManager, Holding.of, Holding.requested]
    · rw [Registry.set_holding_of_ne _ ht]
      simp [registry, withManager, ht]
  unfold World.Hop
  rw [heq]
  exact .single (.request w.registry slot data hm hlen)

/-! ## Binding and releasing -/

theorem of_clearedSlot (s : ManagedSlot) (entry : Option Nat) :
    Holding.of (FakeClientManager.clearedSlot s) none = (Holding.of s entry).released := by
  simp [Holding.of, Holding.released, FakeClientManager.clearedSlot]

theorem registry_releaseSlot (w : World) (slot : Slot) :
    (w.releaseSlot slot).registry = w.registry.release slot := by
  have hbot : (w.botInfo.releaseAssignment (w.identity.slotEntries slot)).entries =
      w.botInfo.entries := by
    unfold BotInfoStore.releaseAssignment
    split <;> rfl
  refine Registry.ext (funext fun t => ?_) (congrArg (List.map BotEntry.steamId64) hbot) ?_ rfl rfl
  · rcases eq_or_ne t slot with rfl | ht
    · rw [Registry.release_holding_self]
      unfold registry World.releaseSlot FakeClientManager.releaseSlot
      dsimp only
      rw [FakeClientManager.setSlot_slots_self, Function.update_self]
      exact of_clearedSlot _ _
    · rw [Registry.release_holding_of_ne _ ht]
      unfold registry World.releaseSlot FakeClientManager.releaseSlot
      dsimp only
      rw [FakeClientManager.setSlot_slots_of_ne _ ht, Function.update_of_ne ht]
  · unfold registry World.releaseSlot Registry.release BotInfoStore.releaseAssignment Holding.of
    dsimp only
    cases w.identity.slotEntries slot <;> rfl

theorem leases_releaseSlot (w : World) (slot : Slot) : w.Leases (w.releaseSlot slot) := by
  unfold World.Leases
  rw [registry_releaseSlot]
  exact .single (.release w.registry slot)

theorem leases_releaseAll (w : World) : w.Leases w.releaseAll := by
  have heq : w.releaseAll.registry = w.registry.releaseAll :=
    Registry.ext (funext fun t => of_clearedSlot _ _) rfl rfl rfl rfl
  unfold World.Leases
  rw [heq]
  exact .single (.releaseAll w.registry)

/-! ## Avatar passes -/

/-- The managers an avatar pass can leave: published states changed, slot by slot. -/
inductive Published (m : FakeClientManager) : FakeClientManager → Prop
  | refl : Published m m
  | step {m' : FakeClientManager} (slot : Slot) (applied : Bool) (steamId : UInt64)
      (h : Published m m') : Published m (m'.publishAvatarState slot applied steamId)

theorem Published.trans {m m' m'' : FakeClientManager} (h : Published m m')
    (h' : Published m' m'') : Published m m'' := by
  induction h' with
  | refl => exact h
  | step slot applied steamId _ ih => exact .step slot applied steamId ih

theorem Published.path {m : FakeClientManager} (h : Published w.manager m) :
    w.Path (w.withManager m) := by
  induction h with
  | refl => exact .of_eq rfl
  | step slot applied steamId _ ih =>
    exact ih.trans (path_publishAvatarState (w.withManager _) slot applied steamId)

theorem published_withdrawAll (m : FakeClientManager) :
    Published m (AvatarOverrides.withdrawAll m) :=
  Sweep.foldl_rel (fun _ => .refl) (fun _ _ _ => .trans)
    (fun _ slot => .step slot false 0 .refl) allSlots m

theorem published_processSlot (calls : Slot → TableCalls) (now addr : Nat)
    (s : FakeClientManager × AvatarOverrides) (slot : Slot) :
    Published s.1 (AvatarOverrides.processSlot calls now addr s slot).1 := by
  have h1 : Published s.1 _ := .step slot false 0 .refl
  unfold AvatarOverrides.processSlot
  dsimp only
  split
  · exact .refl
  · split
    · exact h1
    · unfold AvatarOverrides.applyRequest
      dsimp only
      split
      · exact h1
      · split
        · exact h1
        · split
          · exact h1
          · exact .step slot true _ h1

theorem published_noteTable (a : AvatarOverrides) (m : FakeClientManager) (addr : Nat) :
    Published m (a.noteTable m addr).1 := by
  unfold AvatarOverrides.noteTable
  split
  · exact .refl
  · exact published_withdrawAll m

/-- The rounds of a pass. -/
theorem published_rounds (calls : Slot → TableCalls) (now addr : Nat)
    (s : FakeClientManager × AvatarOverrides) :
    Published s.1 (allSlots.foldl (AvatarOverrides.processSlot calls now addr) s).1 :=
  Sweep.foldl_rel (R := fun s s' : FakeClientManager × AvatarOverrides => Published s.1 s'.1)
    (fun _ => .refl) (fun _ _ _ => .trans)
    (fun s slot => published_processSlot calls now addr s slot) allSlots s

theorem published_processOverrides (a : AvatarOverrides) (m : FakeClientManager)
    (found : Option Nat) (calls : Slot → TableCalls) (now : Nat) :
    Published m (a.processOverrides m found calls now).1 := by
  unfold AvatarOverrides.processOverrides
  split
  · exact .refl
  · split
    · exact .refl
    · exact (published_noteTable a m _).trans (published_rounds calls now _ _)

theorem path_processOverrides (w : World) (env : PassEnv) : w.Path (w.processOverrides env) :=
  Published.path (published_processOverrides w.avatar w.manager env.found env.calls env.now)

theorem path_resetRuntime (w : World) : w.Path w.resetRuntime :=
  Published.path (published_withdrawAll w.manager)

/-! ## Adoption -/

/-- An adoption, once the pool gave its pick, is the registry's. -/
theorem registry_adoptEntry (w : World) (slot : Slot) (name : Option Bytes) (now : UInt64)
    (pick : Nat) (entry : BotEntry) :
    (w.adoptEntry slot name now pick entry).registry =
      let incarnation := FakeClientManager.bumpIncarnation w.manager.nextIncarnation
      { w.registry with
        holding := Function.update w.registry.holding slot
          ((w.registry.holding slot).adopted pick entry.steamId64 incarnation
            (copyText kNameLen (some (w.displayName entry name))).text)
        nextIncarnation := incarnation
        issued := incarnation :: w.registry.issued } := by
  have hrec : ∀ t, ((w.manager.adoptSlot slot
      { name := some (w.displayName entry name)
        steamId64 := entry.steamId64
        crosshairCode := entry.crosshairCode
        scoreboardFlair := entry.scoreboardFlair
        clanTag := entry.clanTag.tag
        clanGroupId := entry.clanTag.groupId } now).slots t) = _ := fun _ => rfl
  have hdisguise : ∀ w' : World, (if w'.isDisguiseEnabled then
      w'.disguiseClient slot w'.populationTransactionActive else w').registry = w'.registry := by
    intro w'
    split <;> rfl
  unfold adoptEntry
  rw [hdisguise]
  refine Registry.ext (funext fun t => ?_) rfl rfl rfl ?_
  · rcases eq_or_ne t slot with rfl | ht
    · simp [registry, World.writeSteamId, withEngine, bindSlot, World.adoptSlot,
        FakeClientManager.adoptSlot, Holding.of, Holding.adopted, FakeClientManager.clearedSlot]
    · simp [registry, World.writeSteamId, withEngine, bindSlot, World.adoptSlot,
        FakeClientManager.adoptSlot, ht]
  · simp [registry, World.writeSteamId, withEngine, bindSlot, World.adoptSlot,
      FakeClientManager.adoptSlot, FakeClientManager.getIncarnation]

theorem leases_adoptClient (hg : w.registry.Good) {slot : Slot}
    (hm : w.manager.isManaged slot = false) (name : Option Bytes) (now : UInt64) :
    w.Leases (w.adoptClient slot name now).1 := by
  unfold adoptClient
  split
  · exact .refl
  · rename_i occupied hocc
    dsimp only
    split
    · rename_i hnone
      rw [pickForBot_none hnone]
    · rename_i pick hpick
      obtain ⟨⟨hfree, entry, hentry, hsid⟩, hentries, hassigned⟩ := pickForBot_some hpick
      have hpool : w.registry.steamIds[pick]? = some entry.steamId64 := by
        rw [show w.registry.steamIds = w.botInfo.entries.map BotEntry.steamId64 from rfl,
          List.getElem?_map, hentry]
        rfl
      have hlt : pick < w.registry.assigned.length := by
        rw [hg.pool]
        exact (List.getElem?_eq_some_iff.mp hpool).1
      have hbit : w.registry.assigned[pick]? = some false := by
        change w.registry.assigned[pick]?.getD false = false at hfree
        rw [List.getElem?_eq_getElem hlt] at hfree ⊢
        rw [← hfree, Option.getD_some]
      have hfresh : w.registry.Fresh slot entry.steamId64 := fun t ht hmt =>
        (notMem_collectOccupiedSteamIds hocc hsid).2 t ht hmt
      have hstep := Registry.Lease.adopt w.registry slot pick entry.steamId64
        (copyText kNameLen (some (w.displayName entry name))).text hm hbit hpool hfresh
      refine .single ?_
      rw [hentries, hentry, Option.getD_some, registry_adoptEntry]
      convert hstep using 1
      refine Registry.ext rfl ?_ hassigned rfl rfl
      exact congrArg (List.map BotEntry.steamId64) hentries

/-! ## Client hooks -/

theorem leases_applyClientName (w : World) (call : SetNameCall) (slot : Slot) (name : Bytes) :
    w.Leases (w.applyClientName call slot name).1 :=
  leases_setSlotName (w.withEngine _) slot _

theorem leases_hookOnClientConnectedPost (hg : w.registry.Good) (slot : Int)
    (name networkId : Option Bytes) (fakePlayer : Bool) (now : UInt64) :
    w.Leases (w.hookOnClientConnectedPost slot name networkId fakePlayer now) := by
  unfold hookOnClientConnectedPost
  split
  · exact .refl
  · split
    · exact .refl
    · split
      · exact .refl
      · rename_i hm
        split
        · exact .refl
        · split
          · exact .refl
          · exact leases_adoptClient hg (by simpa using hm) name now

theorem path_adoptExistingBot (hg : w.registry.Good) (call : SetNameCall) (now : UInt64)
    {slot : Slot} (hm : w.manager.isManaged slot = false) :
    w.Path (w.adoptExistingBot call now slot) := by
  unfold adoptExistingBot
  split
  · exact .refl
  · rename_i client _
    split
    · exact .refl
    · split
      · exact .refl
      · have hadopt := leases_adoptClient hg hm client.name now
        dsimp only
        split
        · exact hadopt.path.trans (leases_applyClientName _ call slot _).path
        · exact hadopt.path

theorem leases_releaseManagedHltvSlot (w : World) (call : SetNameCall) (slot : Slot) :
    w.Leases (w.releaseManagedHltvSlot call slot).1 := by
  unfold releaseManagedHltvSlot
  split
  · exact .refl
  · split
    · exact .refl
    · dsimp only
      split
      · exact leases_releaseSlot (w.writeSteamId slot 0) slot
      · exact leases_releaseSlot (w.withEngine _) slot

theorem leases_reapplyIdentity (w : World) (call : SetNameCall) (slot : Slot)
    (name : Option Bytes) : w.Leases (w.reapplyIdentity call slot name) := by
  have hwritten : (World.writeSteamId (if w.isDisguiseEnabled then
      w.disguiseClient slot w.populationTransactionActive else w) slot
      (w.manager.getSyntheticSid slot)).registry = w.registry := by
    split <;> rfl
  have hname : ∀ (w' : World) (visible : Bytes),
      w'.Leases (if visible = [] then w' else (w'.applyClientName call slot visible).1) := by
    intro w' visible
    split
    · exact .refl
    · exact leases_applyClientName w' call slot visible
  exact Leases.after_eq hwritten (hname _ _)

theorem leases_hookClientPutInServerPost (w : World) (call : SetNameCall) (slot : Int)
    (name : Option Bytes) : w.Leases (w.hookClientPutInServerPost call slot name) := by
  unfold hookClientPutInServerPost
  split
  · exact .refl
  · rename_i index _
    split
    · exact .refl
    · split
      · exact .refl
      · dsimp only
        split
        · exact leases_releaseManagedHltvSlot w call index
        · split
          · exact leases_releaseSlot (w.restoreSlotClient index) index
          · exact leases_reapplyIdentity w call index name

theorem registry_queueControllerRemovalForClient (w : World) (client : Client) (slot : Slot) :
    (w.queueControllerRemovalForClient client slot).registry = w.registry := by
  unfold queueControllerRemovalForClient
  split
  · rfl
  · split
    · rfl
    · split
      · rfl
      · split <;> rfl

theorem leases_hookClientDisconnectPre (w : World) (slot : Int) (targeted : Bool) :
    w.Leases (w.hookClientDisconnectPre slot targeted) := by
  unfold hookClientDisconnectPre
  split
  · exact .refl
  · rename_i index _
    split
    · exact .refl
    · dsimp only
      refine Leases.after_eq ?_ (leases_releaseSlot _ index)
      split
      · rfl
      · split
        · exact registry_queueControllerRemovalForClient _ _ _
        · rfl

/-! ## Levels -/

theorem path_hookStartChangeLevelPre (w : World) (env : PassEnv) :
    w.Path (w.hookStartChangeLevelPre env) :=
  (leases_releaseAll (w.withEngine _)).path.trans (path_processOverrides _ env)

/-- Past the reset of the avatar bookkeeping a level's start leaves the registry alone. -/
theorem registry_onLevelInit (w : World) (gate : ModeGate) :
    (w.onLevelInit gate).registry = w.resetRuntime.registry :=
  registry_of_hull (hull_onLevelInit w gate)

theorem path_onLevelInit (w : World) (gate : ModeGate) : w.Path (w.onLevelInit gate) :=
  (path_resetRuntime w).trans (Path.of_eq (registry_onLevelInit w gate))

theorem path_onLevelShutdown (w : World) (env : PassEnv) : w.Path (w.onLevelShutdown env) :=
  (leases_releaseAll w).path.trans ((path_processOverrides _ env).trans (path_resetRuntime _))

/-! ## Exported calls -/

theorem managed_of_target {slot : Int} {incarnation : UInt64} {index : Slot}
    (h : w.target slot incarnation = some index) :
    w.manager.isManaged index = true ∧ incarnation ≠ 0 ∧
      w.manager.getIncarnation index = incarnation := by
  obtain ⟨-, hcond⟩ := Option.filter_eq_some_iff.mp h
  simp only [Bool.and_eq_true, bne_iff_ne, beq_iff_eq] at hcond
  exact ⟨hcond.1, hcond.2.1, hcond.2.2.symm⟩

theorem leases_applySteamIdCommand {slot : Slot} (hm : w.manager.isManaged slot = true)
    (steamId : UInt64) : w.Leases (w.applySteamIdCommand slot steamId).1 := by
  unfold applySteamIdCommand
  split
  · exact .refl
  · split
    · exact .refl
    · rename_i havail
      rw [not_not] at havail
      obtain ⟨hnz, occupied, hocc, hsid⟩ := available_of_checkSteamIdAvailability havail
      have hfresh : w.registry.Fresh slot steamId := fun t ht hmt =>
        (notMem_collectOccupiedSteamIds hocc hsid).2 t ht hmt
      dsimp only
      split
      · exact leases_setSyntheticSid (w := (w.disguiseClient slot false).writeSteamId slot steamId)
          hm hnz hfresh
      · exact leases_setSyntheticSid (w := w.writeSteamId slot steamId) hm hnz hfresh

theorem leases_bhSetSteamId (w : World) (slot : Int) (incarnation steamId : UInt64) (alloc : Bool) :
    w.Leases (w.bhSetSteamId slot incarnation steamId alloc).1 := by
  unfold bhSetSteamId
  split
  · exact .refl
  · rename_i index htarget
    split
    · exact .refl
    · exact leases_applySteamIdCommand (managed_of_target htarget).1 steamId

theorem leases_bhSetName (w : World) (call : SetNameCall) (slot : Int) (incarnation : UInt64)
    (name : Option Bytes) (length : Int) :
    w.Leases (w.bhSetName call slot incarnation name length).1 := by
  unfold bhSetName
  split
  · exact .refl
  · split
    · exact .refl
    · split
      · exact .refl
      · unfold applyPersonaNameCommand
        split
        · exact .refl
        · exact leases_applyClientName w call _ _

theorem hop_bhSetAvatar (w : World) (slot : Int) (incarnation : UInt64) (data : Option Bytes)
    (length : Int) (alloc : Bool) :
    w.Hop (w.bhSetAvatar slot incarnation data length alloc).1 := by
  unfold bhSetAvatar
  split
  · exact .refl
  · rename_i index htarget
    split
    · exact .refl
    · rename_i hlen
      dsimp only
      split
      · exact .refl
      · refine hop_setAvatarRequest (managed_of_target htarget).1 ?_
        cases data with
        | none => exact Nat.zero_le _
        | some data =>
          rw [Option.map_some, Option.getD_some, List.length_take]
          omega

theorem registry_bhAttach (w : World) : w.bhAttach.1.registry = w.registry := by
  unfold bhAttach FakeClientManager.attach
  dsimp only
  split <;> rfl

theorem registry_bhDetach (w : World) : w.bhDetach.registry = w.registry := by
  unfold bhDetach
  split <;> rfl

end BotHider.Model
