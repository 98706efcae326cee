import BotHider.Model.Frames

/-!
# BotHider — what an operation does to its own slot

For each operation on one slot, the cases it comes to (`*_cases`) and what the
slot's client, controller and record are afterwards. With `Confined`, which
speaks of all other slots, these lemmas say everything about the operation that
the disguise depends on.
-/

namespace BotHider.Model

open World Engine

variable {w : World} {slot : Slot}

/-! ## Building blocks -/

@[simp] theorem client_disguiseClient (w : World) (slot : Slot) (b : Bool) :
    (w.disguiseClient slot b).engine.resolveClientBySlot slot =
      (w.engine.resolveClientBySlot slot).map Client.clearFakePlayer := by
  rw [disguiseClient, withEngine, resolveClientBySlot_setControllerFakeClientFlag,
    resolveClientBySlot_modifyClient_self]

@[simp] theorem controller_disguiseClient (w : World) (slot : Slot) (b : Bool) :
    (w.disguiseClient slot b).engine.controllerAt slot =
      (w.engine.controllerAt slot).map (Entity.withFakeClient b) := by
  rw [disguiseClient, withEngine, controllerAt_setControllerFakeClientFlag_self,
    controllerAt_modifyClient _ _ _ Client.entityIndex_clearFakePlayer]

@[simp] theorem client_writeSteamId (w : World) (slot : Slot) (sid : UInt64) :
    (w.writeSteamId slot sid).engine.resolveClientBySlot slot =
      (w.engine.resolveClientBySlot slot).map (Client.writeSteamId sid) := by
  rw [World.writeSteamId, withEngine, resolveClientBySlot_modifyClient_self]

@[simp] theorem controller_writeSteamId (w : World) (slot : Slot) (sid : UInt64) (t : Nat) :
    (w.writeSteamId slot sid).engine.controllerAt t = w.engine.controllerAt t := by
  rw [World.writeSteamId, withEngine,
    controllerAt_modifyClient _ _ _ (Client.entityIndex_writeSteamId sid)]

theorem client_restoreSlotClient (w : World) (slot : Slot) :
    (w.restoreSlotClient slot).engine.resolveClientBySlot slot =
      (w.engine.resolveClientBySlot slot).map fun c => c.setFakePlayer.writeSteamId 0 :=
  client_restoreClient w.engine slot

theorem controller_restoreSlotClient (w : World) (slot : Slot) :
    (w.restoreSlotClient slot).engine.controllerAt slot =
      (w.engine.controllerAt slot).map (Entity.withFakeClient true) :=
  controllerAt_restoreClient w.engine slot

@[simp] theorem engine_releaseSlot (w : World) (slot : Slot) :
    (w.releaseSlot slot).engine = w.engine := rfl

theorem isManaged_releaseSlot (w : World) (slot : Slot) :
    (w.releaseSlot slot).manager.isManaged slot = false := by
  simp [World.releaseSlot, FakeClientManager.releaseSlot, FakeClientManager.isManaged,
    FakeClientManager.clearedSlot]

/-- The function changes at most the name of a client. -/
def Renames (f : Client → Client) : Prop := ∀ c, ∃ name, f c = { c with name := name }

theorem renames_id : Renames id := fun c => ⟨c.name, rfl⟩

/-- Naming a client changes nothing else of it. -/
theorem client_setEngineName (e : Engine) (call : SetNameCall) (slot : Nat) (name : Bytes) :
    ∃ f : Client → Client, Renames f ∧
      (e.setEngineName call slot name).1.resolveClientBySlot slot =
        (e.resolveClientBySlot slot).map f := by
  unfold Engine.setEngineName
  split
  · exact ⟨id, renames_id, by rw [Option.map_id]; rfl⟩
  · dsimp only
    refine ⟨fun c => { c with name := call.applied (cstr name) }, fun _ => ⟨_, rfl⟩, ?_⟩
    exact resolveClientBySlot_modifyClient_self _ _ _

theorem controller_setEngineName (e : Engine) (call : SetNameCall) (slot : Nat) (name : Bytes)
    (t : Nat) :
    (e.setEngineName call slot name).1.controllerAt t = e.controllerAt t := by
  unfold Engine.setEngineName
  split
  · rfl
  · exact controllerAt_modifyClient (f := fun c => { c with name := _ }) _ _ _ fun _ => rfl

theorem client_applyClientName (w : World) (call : SetNameCall) (slot : Slot) (name : Bytes) :
    ∃ f : Client → Client, Renames f ∧
      (w.applyClientName call slot name).1.engine.resolveClientBySlot slot =
        (w.engine.resolveClientBySlot slot).map f :=
  client_setEngineName w.engine call slot name

theorem controller_applyClientName (w : World) (call : SetNameCall) (slot : Slot) (name : Bytes)
    (t : Nat) :
    (w.applyClientName call slot name).1.engine.controllerAt t = w.engine.controllerAt t :=
  controller_setEngineName w.engine call slot name t

theorem held_applyClientName (w : World) (call : SetNameCall) (slot : Slot) (name : Bytes) :
    (w.applyClientName call slot name).1.manager.held = w.manager.held :=
  held_setSlot _ _ rfl rfl

theorem held_bhSetName (w : World) (call : SetNameCall) (slot : Int) (incarnation : UInt64)
    (name : Option Bytes) (length : Int) :
    (w.bhSetName call slot incarnation name length).1.manager.held = w.manager.held := by
  unfold bhSetName
  split
  · rfl
  · split
    · rfl
    · split
      · rfl
      · unfold applyPersonaNameCommand
        split
        · rfl
        · exact held_applyClientName w call _ _

/-! ## Adoption -/

theorem adoptClient_cases (w : World) (slot : Slot) (name : Option Bytes) (now : UInt64) :
    w.adoptClient slot name now = (w, false) ∨
    ∃ occupied pick entry,
      collectOccupiedSteamIds w.manager w.engine slot = some occupied ∧
      (w.botInfo.pickForBot name occupied).1 = some pick ∧
      w.botInfo.entries[pick]? = some entry ∧ entry.steamId64 ∉ occupied ∧
      w.adoptClient slot name now =
        (World.adoptEntry { w with botInfo := (w.botInfo.pickForBot name occupied).2 } slot name
          now pick entry, true) := by
  unfold adoptClient
  split
  · exact Or.inl rfl
  · rename_i occupied hocc
    dsimp only
    split
    · rename_i hnone
      rw [pickForBot_none hnone]
      exact Or.inl rfl
    · rename_i pick hpick
      obtain ⟨⟨-, entry, hentry, hsid⟩, hentries, -⟩ := pickForBot_some hpick
      refine Or.inr ⟨occupied, pick, entry, hocc, hpick, hentry, hsid, ?_⟩
      rw [hentries, hentry]
      rfl

theorem held_adoptEntry (w : World) (slot : Slot) (name : Option Bytes) (now : UInt64)
    (pick : Nat) (entry : BotEntry) :
    (w.adoptEntry slot name now pick entry).manager.held slot = (true, entry.steamId64) := by
  have hm : (w.adoptEntry slot name now pick entry).manager =
      (w.adoptSlot slot
        { name := some (w.displayName entry name)
          steamId64 := entry.steamId64
          crosshairCode := entry.crosshairCode
          scoreboardFlair := entry.scoreboardFlair
          clanTag := entry.clanTag.tag
          clanGroupId := entry.clanTag.groupId } now).manager := by
    unfold adoptEntry
    dsimp only
    split <;> rfl
  rw [hm]
  simp [World.adoptSlot, FakeClientManager.adoptSlot, FakeClientManager.held,
    FakeClientManager.isManaged, FakeClientManager.getSyntheticSid]

/-- An adopted client carries the entry's SteamID, and in Player mode a human's flags. -/
theorem client_adoptEntry (w : World) (slot : Slot) (name : Option Bytes) (now : UInt64)
    (pick : Nat) (entry : BotEntry) :
    (w.adoptEntry slot name now pick entry).engine.resolveClientBySlot slot =
      (w.engine.resolveClientBySlot slot).map fun c =>
        if w.isDisguiseEnabled then (c.writeSteamId entry.steamId64).clearFakePlayer
        else c.writeSteamId entry.steamId64 := by
  have hb : ∀ a, (((w.adoptSlot slot a now).bindSlot slot pick name).writeSteamId slot
      entry.steamId64).isDisguiseEnabled = w.isDisguiseEnabled := fun _ => rfl
  unfold adoptEntry
  dsimp only
  rw [hb]
  cases w.isDisguiseEnabled with
  | true =>
    simp only [if_true, client_disguiseClient, client_writeSteamId]
    rw [Option.map_map]
    rfl
  | false =>
    simp only [Bool.false_eq_true, if_false, client_writeSteamId]
    rfl

theorem controller_adoptEntry (w : World) (slot : Slot) (name : Option Bytes) (now : UInt64)
    (pick : Nat) (entry : BotEntry) :
    (w.adoptEntry slot name now pick entry).engine.controllerAt slot =
      (w.engine.controllerAt slot).map fun k =>
        if w.isDisguiseEnabled then k.withFakeClient w.populationTransactionActive else k := by
  have hb : ∀ a, (((w.adoptSlot slot a now).bindSlot slot pick name).writeSteamId slot
      entry.steamId64).isDisguiseEnabled = w.isDisguiseEnabled := fun _ => rfl
  unfold adoptEntry
  dsimp only
  rw [hb]
  cases w.isDisguiseEnabled with
  | true =>
    simp only [if_true, controller_disguiseClient, controller_writeSteamId]
    rfl
  | false =>
    simp only [Bool.false_eq_true, if_false, controller_writeSteamId, Option.map_id']
    rfl

/-- What `HookOnClientConnectedPost` can do: adopt an unmanaged slot's fake client, or
nothing. -/
theorem connected_cases (w : World) (slot : Int) (name networkId : Option Bytes)
    (fakePlayer : Bool) (now : UInt64) :
    w.hookOnClientConnectedPost slot name networkId fakePlayer now = w ∨
    ∃ index client, slotOf slot = some index ∧ fakePlayer = true ∧
      w.manager.isManaged index = false ∧ w.engine.resolveClientBySlot index = some client ∧
      w.hookOnClientConnectedPost slot name networkId fakePlayer now =
        (w.adoptClient index name now).1 := by
  unfold hookOnClientConnectedPost
  split
  · exact Or.inl rfl
  · rename_i hfake
    split
    · exact Or.inl rfl
    · rename_i index hindex
      split
      · exact Or.inl rfl
      · rename_i hm
        split
        · exact Or.inl rfl
        · rename_i client hc
          split
          · exact Or.inl rfl
          · refine Or.inr ⟨index, client, hindex, ?_, by simpa using hm, hc, rfl⟩
            by_contra h
            simp [h] at hfake

/-! ## Release -/

theorem hltv_cases (w : World) (call : SetNameCall) (slot : Slot) :
    w.releaseManagedHltvSlot call slot = (w, false) ∨
    (∃ client, w.engine.resolveClientBySlot slot = some client ∧
      w.manager.isManaged slot = true ∧ client.hltv = true ∧
      (w.releaseManagedHltvSlot call slot).2 = true ∧
      (w.releaseManagedHltvSlot call slot).1.manager.isManaged slot = false ∧
      (w.releaseManagedHltvSlot call slot).1.engine.controllerAt slot =
        w.engine.controllerAt slot ∧
      ∃ f : Client → Client, Renames f ∧
        (w.releaseManagedHltvSlot call slot).1.engine.resolveClientBySlot slot =
          some (f (client.writeSteamId 0))) := by
  cases hc : w.engine.resolveClientBySlot slot with
  | none =>
    unfold releaseManagedHltvSlot
    rw [hc]
    exact Or.inl rfl
  | some client =>
    unfold releaseManagedHltvSlot
    rw [hc]
    dsimp only
    split
    · exact Or.inl rfl
    · rename_i hcond
      simp only [Bool.or_eq_true, Bool.not_eq_eq_eq_not, Bool.not_true, not_or,
        Bool.not_eq_false] at hcond
      refine Or.inr ⟨client, rfl, hcond.1, hcond.2, rfl, isManaged_releaseSlot _ _, ?_, ?_⟩
      · rw [engine_releaseSlot]
        split
        · exact controller_writeSteamId w slot 0 slot
        · exact (controller_setEngineName _ call _ _ _).trans (controller_writeSteamId w slot 0 slot)
      · rw [engine_releaseSlot]
        split
        · refine ⟨id, renames_id, ?_⟩
          rw [client_writeSteamId, hc]
          rfl
        · obtain ⟨f, hf, hres⟩ := client_setEngineName (w.writeSteamId slot 0).engine call slot
            (w.identity.originalSlotNames slot)
          refine ⟨f, hf, hres.trans ?_⟩
          rw [client_writeSteamId, hc]
          rfl

/-- What `HookClientDisconnectPre` can do: undo and release a managed slot, or
nothing. -/
theorem disconnect_cases (w : World) {index : Slot} {slot : Int} (h : slotOf slot = some index)
    (targeted : Bool) :
    (w.manager.isManaged index = false ∧ w.hookClientDisconnectPre slot targeted = w) ∨
    (w.manager.isManaged index = true ∧ w.engine.resolveClientBySlot index = none ∧
      w.hookClientDisconnectPre slot targeted = w.releaseSlot index) ∨
    (w.manager.isManaged index = true ∧
      (∃ client, w.engine.resolveClientBySlot index = some client) ∧
      (w.hookClientDisconnectPre slot targeted).face =
        ((w.restoreSlotClient index).releaseSlot index).face) := by
  unfold hookClientDisconnectPre
  rw [h]
  dsimp only
  split
  · rename_i hm
    exact Or.inl ⟨by simpa using hm, rfl⟩
  · rename_i hm
    simp only [Bool.not_eq_eq_eq_not, Bool.not_true, Bool.not_eq_false] at hm
    cases hc : w.engine.resolveClientBySlot index with
    | none => exact Or.inr (Or.inl ⟨hm, rfl, rfl⟩)
    | some client =>
      refine Or.inr (Or.inr ⟨hm, ⟨client, rfl⟩, ?_⟩)
      dsimp only
      split
      · unfold queueControllerRemovalForClient
        split
        · rfl
        · split
          · rfl
          · split
            · rfl
            · split <;> rfl
      · rfl

/-! ## Server entry -/

/-- A managed slot's client is released as SourceTV exactly when it is one. -/
theorem hltv_of_managed {w : World} {slot : Slot} {client : Client}
    (hm : w.manager.isManaged slot = true)
    (hc : w.engine.resolveClientBySlot slot = some client) (call : SetNameCall) :
    (w.releaseManagedHltvSlot call slot).2 = client.hltv := by
  unfold releaseManagedHltvSlot
  rw [hc]
  dsimp only
  rw [hm]
  cases client.hltv <;> rfl

/-- What `HookClientPutInServerPost` can do to a managed slot: release it as SourceTV,
release it for a conflict, or put its identity back on. -/
theorem putInServer_cases (w : World) (call : SetNameCall) {index : Slot} {slot : Int}
    (h : slotOf slot = some index) (name : Option Bytes) :
    w.hookClientPutInServerPost call slot name = w ∨
    (w.manager.isManaged index = true ∧ ∃ client,
      w.engine.resolveClientBySlot index = some client ∧
      ((client.hltv = true ∧
          w.hookClientPutInServerPost call slot name = (w.releaseManagedHltvSlot call index).1) ∨
        (client.hltv = false ∧ w.hookClientPutInServerPost call slot name =
          (w.restoreSlotClient index).releaseSlot index) ∨
        (client.hltv = false ∧
          w.hookClientPutInServerPost call slot name = w.reapplyIdentity call index name))) := by
  unfold hookClientPutInServerPost
  rw [h]
  dsimp only
  split
  · exact Or.inl rfl
  · rename_i hm
    simp only [Bool.not_eq_eq_eq_not, Bool.not_true, Bool.not_eq_false] at hm
    split
    · exact Or.inl rfl
    · rename_i client hc
      refine Or.inr ⟨hm, client, hc, ?_⟩
      rw [hltv_of_managed hm hc call]
      cases client.hltv with
      | true => exact Or.inl ⟨rfl, rfl⟩
      | false =>
        simp only [Bool.false_eq_true, if_false]
        split
        · exact Or.inr (Or.inl ⟨trivial, rfl⟩)
        · exact Or.inr (Or.inr ⟨trivial, rfl⟩)

/-- Server entry gives a slot's client its SteamID, and in Player mode a human's flags. -/
theorem client_reapplyIdentity (w : World) (call : SetNameCall) (slot : Slot)
    (name : Option Bytes) :
    ∃ f : Client → Client, Renames f ∧
      (w.reapplyIdentity call slot name).engine.resolveClientBySlot slot =
        (w.engine.resolveClientBySlot slot).map fun c =>
          f ((if w.isDisguiseEnabled then c.clearFakePlayer else c).writeSteamId
            (w.manager.getSyntheticSid slot)) := by
  have hwritten : (World.writeSteamId (if w.isDisguiseEnabled then
      w.disguiseClient slot w.populationTransactionActive else w) slot
      (w.manager.getSyntheticSid slot)).engine.resolveClientBySlot slot =
      (w.engine.resolveClientBySlot slot).map fun c =>
        (if w.isDisguiseEnabled then c.clearFakePlayer else c).writeSteamId
          (w.manager.getSyntheticSid slot) := by
    rw [client_writeSteamId]
    cases w.isDisguiseEnabled with
    | true =>
      simp only [if_true, client_disguiseClient]
      rw [Option.map_map]
      rfl
    | false => rfl
  have hname : ∀ (w' : World) (visible : Bytes),
      ∃ f : Client → Client, Renames f ∧
        (if visible = [] then w'
          else (w'.applyClientName call slot visible).1).engine.resolveClientBySlot slot =
          (w'.engine.resolveClientBySlot slot).map f := by
    intro w' visible
    split
    · exact ⟨id, renames_id, by rw [Option.map_id]; rfl⟩
    · exact client_applyClientName w' call slot visible
  unfold reapplyIdentity
  dsimp only
  obtain ⟨f, hf, hres⟩ := hname _ _
  refine ⟨f, hf, hres.trans ?_⟩
  rw [hwritten, Option.map_map]
  rfl

theorem controller_reapplyIdentity (w : World) (call : SetNameCall) (slot : Slot)
    (name : Option Bytes) :
    (w.reapplyIdentity call slot name).engine.controllerAt slot =
      (w.engine.controllerAt slot).map fun k =>
        if w.isDisguiseEnabled then k.withFakeClient w.populationTransactionActive else k := by
  have hname : ∀ (w' : World) (visible : Bytes),
      (if visible = [] then w'
        else (w'.applyClientName call slot visible).1).engine.controllerAt slot =
        w'.engine.controllerAt slot := by
    intro w' visible
    split
    · rfl
    · exact controller_applyClientName w' call slot visible slot
  refine (hname _ _).trans ?_
  rw [controller_writeSteamId]
  cases w.isDisguiseEnabled with
  | true =>
    simp only [if_true, controller_disguiseClient]
  | false => simp

theorem held_reapplyIdentity (w : World) (call : SetNameCall) (slot : Slot)
    (name : Option Bytes) :
    (w.reapplyIdentity call slot name).manager.held = w.manager.held := by
  have hname : ∀ (w' : World) (visible : Bytes),
      (if visible = [] then w'
        else (w'.applyClientName call slot visible).1).manager.held = w'.manager.held := by
    intro w' visible
    split
    · rfl
    · exact held_applyClientName w' call slot visible
  refine (hname _ _).trans ?_
  unfold World.writeSteamId withEngine
  dsimp only
  split <;> rfl

/-! ## Controller removal -/

/-- A change that at most marks controllers for deletion. -/
structure World.Marks (w w' : World) : Prop where
  hooks : w'.hooks = w.hooks
  plugin : w'.plugin = w.plugin
  manager : w'.manager = w.manager
  client : ∀ t, w'.engine.resolveClientBySlot t = w.engine.resolveClientBySlot t
  live : ∀ t k, w'.engine.controllerAt t = some k → k.beingDeleted = false →
    w.engine.controllerAt t = some k

theorem World.Marks.refl (w : World) : w.Marks w :=
  ⟨rfl, rfl, rfl, fun _ => rfl, fun _ _ hk _ => hk⟩

theorem World.Marks.trans {w w' w'' : World} (h : w.Marks w') (h' : w'.Marks w'') :
    w.Marks w'' :=
  ⟨h'.hooks.trans h.hooks, h'.plugin.trans h.plugin, h'.manager.trans h.manager,
    fun t => (h'.client t).trans (h.client t),
    fun t k hk hlive => h.live t k (h'.live t k hk hlive) hlive⟩

theorem marks_drainControllerRemoval (s : World × List PendingControllerRemoval)
    (item : PendingControllerRemoval) : s.1.Marks (drainControllerRemoval s item).1 := by
  have hremoved : ∀ {current}, s.1.engine.resolveEntityInstance (entryIndex item.handle) =
      some current → s.1.Marks (s.1.withEngine (s.1.engine.modifyEntity (entryIndex item.handle)
        fun k => { k with beingDeleted := true })) := by
    intro current hcurrent
    refine ⟨rfl, rfl, rfl, fun _ => rfl, fun t k hk hlive => ?_⟩
    unfold withEngine at hk
    cases hc : s.1.engine.resolveClientBySlot t with
    | none =>
      unfold controllerAt at hk
      rw [resolveClientBySlot_modifyEntity, hc] at hk
      cases hk
    | some c =>
      rw [controllerAt_modifyEntity (f := fun k => { k with beingDeleted := true }) _ hc
        (s.1.engine.pos_of_resolveEntityInstance hcurrent) fun _ => rfl] at hk
      split at hk
      · obtain ⟨k₀, -, rfl⟩ := Option.map_eq_some_iff.mp hk
        cases hlive
      · exact hk
  unfold drainControllerRemoval
  dsimp only
  split
  · exact .refl _
  · rename_i current hcurrent
    split
    · exact .refl _
    · split
      · exact hremoved hcurrent
      · split
        · exact .refl _
        · split
          · exact .refl _
          · exact hremoved hcurrent

/-- Draining the removals touches no client, and no controller that stays. -/
theorem marks_drainPendingControllerRemovals (w : World) :
    w.Marks w.drainPendingControllerRemovals := by
  have hqueue : ∀ (v : World) queue, w.Marks v →
      w.Marks { v with identity := { v.identity with pendingControllerRemovals := queue } } :=
    fun v queue h => ⟨h.hooks, h.plugin, h.manager, h.client, h.live⟩
  unfold drainPendingControllerRemovals
  split
  · exact hqueue w _ (.refl w)
  · exact hqueue _ _ (Sweep.foldl_rel (R := fun s s' : World × List PendingControllerRemoval =>
      s.1.Marks s'.1) (fun _ => .refl _) (fun _ _ _ => .trans) marks_drainControllerRemoval
      w.identity.pendingControllerRemovals (w, []))

/-! ## Renumbering -/

/-- What `ApplySteamIdCommand` can do: renumber a slot whose new SteamID nobody has, or
nothing. -/
theorem applySteamIdCommand_cases (w : World) (slot : Slot) (sid : UInt64) :
    (w.applySteamIdCommand slot sid = (w, false) ∧ (w.engine.resolveClientBySlot slot = none ∨
      checkSteamIdAvailability w.manager w.engine slot sid ≠ .available)) ∨
    (checkSteamIdAvailability w.manager w.engine slot sid = .available ∧
      (w.applySteamIdCommand slot sid).2 = true ∧
      (w.applySteamIdCommand slot sid).1.manager = w.manager.setSyntheticSid slot sid ∧
      (w.applySteamIdCommand slot sid).1.engine.resolveClientBySlot slot =
        (w.engine.resolveClientBySlot slot).map (fun c =>
          (if w.isDisguiseEnabled then c.clearFakePlayer else c).writeSteamId sid) ∧
      (w.applySteamIdCommand slot sid).1.engine.controllerAt slot =
        (w.engine.controllerAt slot).map fun k =>
          if w.isDisguiseEnabled then k.withFakeClient false else k) := by
  unfold applySteamIdCommand
  split
  · rename_i hc
    exact Or.inl ⟨rfl, Or.inl hc⟩
  · split
    · rename_i havail
      exact Or.inl ⟨rfl, Or.inr havail⟩
    · rename_i havail
      rw [not_not] at havail
      refine Or.inr ⟨havail, rfl, ?_, ?_, ?_⟩
      · dsimp only
        split <;> rfl
      · change (World.writeSteamId _ slot sid).engine.resolveClientBySlot slot = _
        rw [client_writeSteamId]
        cases w.isDisguiseEnabled with
        | true =>
          simp only [if_true, client_disguiseClient]
          rw [Option.map_map]
          rfl
        | false => rfl
      · change (World.writeSteamId _ slot sid).engine.controllerAt slot = _
        rw [controller_writeSteamId]
        cases w.isDisguiseEnabled with
        | true => simp only [if_true, controller_disguiseClient]
        | false => simp

/-! ## Commands -/

/-- A console command opens a command frame; at most it queues a kick first. -/
theorem dispatchPre_cases (w : World) (command : ConCommand) (botKick : Bool) :
    ∃ enabled, ∃ w' : World,
      (w.hookDispatchConCommandPre command botKick).1 = w'.beginPopulationFrame .command enabled ∧
      w'.face = w.face ∧ (enabled = true → w.isDisguiseEnabled = true) := by
  have hqueue : ∀ slot, (w.queueManagedBotKick slot botKick).1.face = w.face := by
    intro slot
    unfold queueManagedBotKick
    split
    · rfl
    · split
      · rfl
      · split
        · rfl
        · split <;> rfl
  have hsup : ∀ name args, (w.supersede name args botKick).1.face = w.face := by
    intro name args
    unfold supersede
    dsimp only
    split
    · exact hqueue _
    · split
      · exact hqueue _
      · rfl
  unfold hookDispatchConCommandPre
  split
  · exact ⟨false, w, rfl, rfl, by simp⟩
  · split
    · exact ⟨_, w, rfl, rfl, id⟩
    · dsimp only
      split
      · exact ⟨false, _, rfl, hsup _ _, by simp⟩
      · refine ⟨_, w, rfl, rfl, fun h => ?_⟩
        rw [Bool.and_eq_true] at h
        exact h.2

theorem held_setSyntheticSid (m : FakeClientManager) (slot : Slot) (sid : UInt64) :
    (m.setSyntheticSid slot sid).held slot = (m.isManaged slot, sid) := by
  simp [FakeClientManager.setSyntheticSid, FakeClientManager.held, FakeClientManager.isManaged,
    FakeClientManager.getSyntheticSid, FakeClientManager.modifySnapshot]

end BotHider.Model
