import BotHider.Avatar.Stirs

/-!
# BotHider — what leaves avatar commands alone

`World.Proceeds` — the background reads and the log of accepted avatar commands stay as they
are, and each slot's lifetime goes on with its request, ends, or is a new one without request
and commands. Every event but the avatar commands themselves, their reads and the bridge's
connection does no more than that (`proceeds_step`).
-/

namespace BotHider.Model

open World

/-! ## Lifetimes -/

/-- The slot's lifetime goes on with the request it had, or ends. -/
def Holding.Continues (h h' : Holding) : Prop :=
  (h'.managed = h.managed ∧ h'.incarnation = h.incarnation ∧ h'.request = h.request) ∨
    h'.managed = false

theorem Holding.Continues.refl (h : Holding) : h.Continues h := Or.inl ⟨rfl, rfl, rfl⟩

theorem Holding.Continues.trans {h h' h'' : Holding} (a : h.Continues h') (b : h'.Continues h'') :
    h.Continues h'' := by
  rcases b with ⟨hm, hi, hr⟩ | hm
  · rcases a with ⟨hm', hi', hr'⟩ | hm'
    · exact Or.inl ⟨hm.trans hm', hi.trans hi', hr.trans hr'⟩
    · exact Or.inr (hm.trans hm')
  · exact Or.inr hm

theorem continues_set {r : Registry} {slot : Slot} {h : Holding}
    (hs : (r.holding slot).Continues h) (t : Slot) :
    (r.holding t).Continues ((r.set slot h).holding t) := by
  rcases eq_or_ne t slot with rfl | ht
  · rwa [Registry.set_holding_self]
  · rw [Registry.set_holding_of_ne r ht]
    exact .refl _

/-- What hands out no incarnation continues or ends lifetimes. -/
theorem Registry.Lease.continues {r r' : Registry} (h : Registry.Lease r r')
    (hissued : r'.issued = r.issued) (t : Slot) : (r.holding t).Continues (r'.holding t) := by
  cases h with
  | adopt slot entry steamId name =>
    exact absurd (congrArg List.length hissued) (Nat.succ_ne_self _)
  | release slot =>
    rcases eq_or_ne t slot with rfl | ht
    · rw [Registry.release_holding_self]
      exact Or.inr rfl
    · rw [Registry.release_holding_of_ne r ht]
      exact .refl _
  | releaseAll => exact Or.inr rfl
  | renumber slot steamId =>
    exact continues_set (h := { r.holding slot with steamId := steamId })
      (Or.inl ⟨rfl, rfl, rfl⟩) t
  | rename slot name =>
    exact continues_set (h := { r.holding slot with name := name }) (Or.inl ⟨rfl, rfl, rfl⟩) t

/-- How a slot's lifetime and its log of commands go on. -/
def World.Lives (w w' : World) (s : Slot) : Prop :=
  (w'.journal.accepted s = w.journal.accepted s ∧
    (w.registry.holding s).Continues (w'.registry.holding s)) ∨
  (w'.journal.accepted s = [] ∧ w'.manager.isManaged s = true ∧
    (w'.manager.getAvatarRequest s).data = [] ∧
    w'.journal.issued = w'.manager.getIncarnation s :: w.journal.issued)

/-- The reads stay as they are, and the lifetimes go on, end or begin. -/
structure World.Proceeds (w w' : World) : Prop where
  reads : w'.bridge.avatarReads = w.bridge.avatarReads
  client : w'.bridge.client = w.bridge.client
  connected : w.connected = true → w'.connected = true
  started : w'.journal.reads = w.journal.reads
  results : w'.journal.results = w.journal.results
  issued : w.journal.issued <:+ w'.journal.issued
  lives : ∀ s, w.Lives w' s

/-! ## What an operation can touch -/

/-- What the avatar commands go by, but for the slots' requests. -/
structure Desk where
  reads : Slot → AvatarRead
  client : Option Nat
  connected : Bool
  journal : Journal

/-- The desk of a world. -/
def World.desk (w : World) : Desk where
  reads := w.bridge.avatarReads
  client := w.bridge.client
  connected := w.connected
  journal := { w.journal with dispatched := [] }

variable {w w' : World}

/-- An operation that leaves the desk alone and continues or ends lifetimes. -/
theorem World.Proceeds.of_desk (h : w'.desk = w.desk)
    (hc : ∀ s, (w.registry.holding s).Continues (w'.registry.holding s)) : w.Proceeds w' where
  reads := congrArg Desk.reads h
  client := congrArg Desk.client h
  connected hw := (congrArg Desk.connected h : w'.connected = w.connected).trans hw
  started := congrArg (fun d : Desk => d.journal.reads) h
  results := congrArg (fun d : Desk => d.journal.results) h
  issued := by
    rw [show w'.journal.issued = w.journal.issued from
      congrArg (fun d : Desk => d.journal.issued) h]
  lives s := Or.inl ⟨congrFun (congrArg (fun d : Desk => d.journal.accepted) h) s, hc s⟩

theorem World.Proceeds.of_registry (h : w'.desk = w.desk) (hr : w'.registry = w.registry) :
    w.Proceeds w' :=
  .of_desk h fun s => by
    rw [hr]
    exact .refl _

theorem World.Leases.continues (h : w.Leases w') (hd : w'.desk = w.desk) (s : Slot) :
    (w.registry.holding s).Continues (w'.registry.holding s) := by
  have hissued : w'.registry.issued = w.registry.issued :=
    congrArg (fun d : Desk => d.journal.issued) hd
  unfold World.Leases at h
  generalize w'.registry = r' at h hissued
  cases h with
  | refl => exact .refl _
  | single h => exact h.continues hissued s

theorem desk_of_shell (h : w'.shell = w.shell) : w'.desk = w.desk :=
  (congrArg World.desk h : w'.shell.desk = w.shell.desk)

theorem desk_of_core (h : w'.core = w.core) : w'.desk = w.desk :=
  (congrArg World.desk h : w'.core.desk = w.core.desk)

theorem desk_of_hull (h : w'.hull = w.hull) : w'.desk = w.desk :=
  (congrArg World.desk h : w'.hull.desk = w.hull.desk)

/-! ## Slots -/

theorem desk_applyClientName (w : World) (call : SetNameCall) (slot : Slot) (name : Bytes) :
    (w.applyClientName call slot name).1.desk = w.desk := rfl

theorem desk_releaseManagedHltvSlot (w : World) (call : SetNameCall) (slot : Slot) :
    (w.releaseManagedHltvSlot call slot).1.desk = w.desk := by
  unfold releaseManagedHltvSlot
  split
  · rfl
  · split
    · rfl
    · dsimp only
      split <;> rfl

theorem desk_reapplyIdentity (w : World) (call : SetNameCall) (slot : Slot)
    (name : Option Bytes) : (w.reapplyIdentity call slot name).desk = w.desk := by
  have hwritten : (World.writeSteamId (if w.isDisguiseEnabled then
      w.disguiseClient slot w.populationTransactionActive else w) slot
      (w.manager.getSyntheticSid slot)).desk = w.desk := by
    split <;> rfl
  have hname : ∀ (w' : World) (visible : Bytes),
      (if visible = [] then w' else (w'.applyClientName call slot visible).1).desk = w'.desk := by
    intro w' visible
    split <;> rfl
  exact (hname _ _).trans hwritten

theorem desk_hookClientPutInServerPost (w : World) (call : SetNameCall) (slot : Int)
    (name : Option Bytes) : (w.hookClientPutInServerPost call slot name).desk = w.desk := by
  unfold hookClientPutInServerPost
  split
  · rfl
  · split
    · rfl
    · split
      · rfl
      · dsimp only
        split
        · exact desk_releaseManagedHltvSlot ..
        · split
          · rfl
          · exact desk_reapplyIdentity ..

theorem desk_queueControllerRemovalForClient (w : World) (client : Client) (slot : Slot) :
    (w.queueControllerRemovalForClient client slot).desk = w.desk := by
  unfold queueControllerRemovalForClient
  split
  · rfl
  · split
    · rfl
    · split
      · rfl
      · split <;> rfl

theorem desk_hookClientDisconnectPre (w : World) (slot : Int) (targeted : Bool) :
    (w.hookClientDisconnectPre slot targeted).desk = w.desk := by
  unfold hookClientDisconnectPre
  split
  · rfl
  · split
    · rfl
    · dsimp only
      split
      · rfl
      · split
        · exact desk_queueControllerRemovalForClient (w.restoreSlotClient _) ..
        · rfl

/-! ## Levels -/

/-- An avatar pass is no part of the bridge. -/
theorem Published.desk {m : FakeClientManager} (h : Published w.manager m) :
    (w.withManager m).desk = w.desk := by
  induction h with
  | refl => rfl
  | step slot applied steamId _ ih => exact ih

theorem Published.continues {m : FakeClientManager} (h : Published w.manager m) (s : Slot) :
    (w.registry.holding s).Continues ((w.withManager m).registry.holding s) := by
  induction h with
  | refl => exact .refl _
  | @step m' slot applied steamId _ ih =>
    refine ih.trans ?_
    rcases eq_or_ne s slot with rfl | hs
    · refine Or.inl ⟨?_, ?_, ?_⟩ <;>
        simp [registry, withManager, Holding.of, FakeClientManager.publishAvatarState,
          FakeClientManager.modifySnapshot]
    · refine Or.inl ⟨?_, ?_, ?_⟩ <;>
        simp [registry, withManager, Holding.of, FakeClientManager.publishAvatarState,
          FakeClientManager.modifySnapshot, hs]

theorem desk_processOverrides (w : World) (env : PassEnv) :
    (w.processOverrides env).desk = w.desk :=
  (published_processOverrides w.avatar w.manager env.found env.calls env.now).desk

theorem continues_processOverrides (w : World) (env : PassEnv) (s : Slot) :
    (w.registry.holding s).Continues ((w.processOverrides env).registry.holding s) :=
  (published_processOverrides w.avatar w.manager env.found env.calls env.now).continues s

theorem desk_resetRuntime (w : World) : w.resetRuntime.desk = w.desk :=
  (published_withdrawAll w.manager).desk

theorem continues_resetRuntime (w : World) (s : Slot) :
    (w.registry.holding s).Continues (w.resetRuntime.registry.holding s) :=
  (published_withdrawAll w.manager).continues s

theorem continues_releaseAll (w : World) (s : Slot) :
    (w.registry.holding s).Continues (w.releaseAll.registry.holding s) := Or.inr rfl

theorem proceeds_hookStartChangeLevelPre (w : World) (env : PassEnv) :
    w.Proceeds (w.hookStartChangeLevelPre env) := by
  unfold hookStartChangeLevelPre
  have hengine : ∀ e, (w.withEngine e).releaseAll.desk = w.desk ∧
      ∀ s, (w.registry.holding s).Continues ((w.withEngine e).releaseAll.registry.holding s) :=
    fun e => ⟨rfl, continues_releaseAll (w.withEngine e)⟩
  generalize restoreManagedClients w.manager w.engine = e
  exact .of_desk ((desk_processOverrides _ env).trans (hengine e).1) fun s =>
    ((hengine e).2 s).trans (continues_processOverrides _ env s)

theorem desk_onLevelInit (w : World) (gate : ModeGate) : (w.onLevelInit gate).desk = w.desk :=
  (desk_of_hull (hull_onLevelInit w gate)).trans (desk_resetRuntime w)

theorem proceeds_onLevelInit (w : World) (gate : ModeGate) : w.Proceeds (w.onLevelInit gate) := by
  refine .of_desk (desk_onLevelInit w gate) fun s => ?_
  rw [registry_onLevelInit]
  exact continues_resetRuntime w s

theorem proceeds_onLevelShutdown (w : World) (env : PassEnv) :
    w.Proceeds (w.onLevelShutdown env) := by
  have hdesk := (desk_resetRuntime (w.releaseAll.processOverrides env)).trans
    (desk_processOverrides w.releaseAll env)
  refine .of_desk hdesk fun s => ?_
  exact ((continues_releaseAll w s).trans (continues_processOverrides _ env s)).trans
    (continues_resetRuntime _ s)

/-! ## Calls -/

theorem desk_bhSetSteamId (w : World) (slot : Int) (incarnation steamId : UInt64)
    (alloc : Bool) : (w.bhSetSteamId slot incarnation steamId alloc).1.desk = w.desk := by
  rcases bhSetSteamId_cases w slot incarnation steamId alloc with ⟨index, -, h⟩ | h
  · rw [h]
    unfold applySteamIdCommand
    split
    · rfl
    · split
      · rfl
      · dsimp only
        split <;> rfl
  · rw [h]

theorem desk_bhSetName (w : World) (call : SetNameCall) (slot : Int) (incarnation : UInt64)
    (name : Option Bytes) (length : Int) :
    (w.bhSetName call slot incarnation name length).1.desk = w.desk := by
  unfold bhSetName
  split
  · rfl
  · split
    · rfl
    · split
      · rfl
      · unfold applyPersonaNameCommand
        split
        · rfl
        · exact desk_applyClientName ..

/-! ## The managed client -/

theorem desk_setBotSteamId (w : World) (slot : Int) (steamId : UInt64) (alloc : Bool) :
    (w.setBotSteamId slot steamId alloc).1.desk = w.desk := by
  unfold setBotSteamId
  split
  · rfl
  · dsimp only
    split
    · exact desk_bhSetSteamId ..
    · exact (desk_of_core (core_of_stage (stage_queueVisibleWrite ..))).trans (desk_bhSetSteamId ..)

theorem desk_setPersonaName (w : World) (call : SetNameCall) (slot : Int) (normalized : Bytes) :
    (w.setPersonaName call slot normalized).1.desk = w.desk := by
  unfold setPersonaName
  split
  · rfl
  · split
    · rfl
    · dsimp only
      split
      · exact desk_bhSetName ..
      · exact (desk_of_core (core_of_stage (stage_queueVisibleWrite ..))).trans (desk_bhSetName ..)

/-! ## Events -/

/-- The avatar commands, their reads, and the events that connect or disconnect the bridge. -/
def Event.reads : Event → Bool
  | .bhDetach | .bhSetAvatar .. | .loadImpl _ | .unloadImpl | .trySetBotAvatar ..
  | .completeAvatarRead .. | .finishAvatarReads _ => true
  | _ => false

/-- The events that can change the desk. -/
def Event.atDesk : Event → Bool
  | .clientConnected .. | .bhAttach => true
  | e => e.reads

theorem desk_step (hl : w.plugin.loaded = true) {e : Event} (h : e.atDesk = false) :
    (w.step e).desk = w.desk := by
  cases e with
  | tables => rfl
  | clientPutInServer => exact desk_hookClientPutInServerPost w ..
  | clientDisconnect => exact desk_hookClientDisconnectPre w ..
  | releaseHltv call slot => exact desk_releaseManagedHltvSlot w call slot
  | processOverrides env => exact desk_processOverrides w env
  | startChangeLevel env =>
    exact (desk_processOverrides (World.releaseAll (w.withEngine _)) env).trans rfl
  | levelInit gate => exact desk_onLevelInit w gate
  | levelShutdown env =>
    exact (desk_resetRuntime (w.releaseAll.processOverrides env)).trans
      (desk_processOverrides w.releaseAll env)
  | unload env removed now => rw [World.step, unload_of_loaded hl]
  | bhSetSteamId => exact desk_bhSetSteamId w ..
  | bhSetName => exact desk_bhSetName w ..
  | bhSetMode gate mode => exact desk_of_hull (hull_bhSetMode w gate mode)
  | setBotSteamId => exact desk_setBotSteamId w ..
  | setPersonaName => exact desk_setPersonaName w ..
  | clientConnected => cases h
  | bhAttach => cases h
  | bhDetach => cases h
  | bhSetAvatar => cases h
  | loadImpl => cases h
  | unloadImpl => cases h
  | trySetBotAvatar => cases h
  | completeAvatarRead => cases h
  | finishAvatarReads => cases h
  | _ =>
    first
    | exact desk_of_core (core_step w rfl)
    | exact desk_of_shell (shell_step w rfl)

/-- An adoption begins a lifetime. -/
theorem proceeds_adoptEntry (w : World) (slot : Slot) (name : Option Bytes) (now : UInt64)
    (pick : Nat) (entry : BotEntry) : w.Proceeds (w.adoptEntry slot name now pick entry) := by
  have hregistry := registry_adoptEntry w slot name now pick entry
  have hdesk : (w.adoptEntry slot name now pick entry).desk =
      { w.desk with journal := { w.desk.journal with
          issued := FakeClientManager.bumpIncarnation w.manager.nextIncarnation ::
            w.journal.issued
          accepted := Function.update w.journal.accepted slot [] } } := by
    have hissued := congrArg Registry.issued hregistry
    have hrest : (w.adoptEntry slot name now pick entry).desk =
        { w.desk with journal := { w.desk.journal with
            issued := (w.adoptEntry slot name now pick entry).journal.issued
            accepted := Function.update w.journal.accepted slot [] } } := by
      unfold adoptEntry
      dsimp only
      split <;> rfl
    rw [hrest]
    exact congrArg (fun issued => { w.desk with journal := { w.desk.journal with
      issued := issued, accepted := Function.update w.journal.accepted slot [] } }) hissued
  generalize w.adoptEntry slot name now pick entry = v at hregistry hdesk
  have haccepted : v.journal.accepted = Function.update w.journal.accepted slot [] :=
    congrArg (fun d : Desk => d.journal.accepted) hdesk
  have hissued : v.journal.issued = FakeClientManager.bumpIncarnation w.manager.nextIncarnation ::
      w.journal.issued := congrArg (fun d : Desk => d.journal.issued) hdesk
  refine ⟨congrArg Desk.reads hdesk, congrArg Desk.client hdesk,
    fun hw => (congrArg Desk.connected hdesk : v.connected = w.connected).trans hw,
    congrArg (fun d : Desk => d.journal.reads) hdesk,
    congrArg (fun d : Desk => d.journal.results) hdesk, hissued ▸ List.suffix_cons .., fun s => ?_⟩
  have hholding := congrArg (fun r : Registry => r.holding s) hregistry
  rcases eq_or_ne s slot with rfl | hs
  · dsimp only at hholding
    rw [Function.update_self] at hholding
    have hinc : v.manager.getIncarnation s =
        FakeClientManager.bumpIncarnation w.manager.nextIncarnation :=
      (congrArg Holding.incarnation hholding : _)
    refine Or.inr ⟨by rw [haccepted, Function.update_self],
      (congrArg Holding.managed hholding : _), ?_, by rw [hissued, hinc]⟩
    exact (congrArg (fun h : Holding => h.request.data) hholding : _)
  · dsimp only at hholding
    rw [Function.update_of_ne hs] at hholding
    refine Or.inl ⟨by rw [haccepted, Function.update_of_ne hs], ?_⟩
    rw [hholding]
    exact .refl _

/-- The pool is no part of it. -/
theorem World.Proceeds.after_pick {botInfo : BotInfoStore}
    (h : World.Proceeds { w with botInfo := botInfo } w') : w.Proceeds w' :=
  ⟨h.reads, h.client, h.connected, h.started, h.results, h.issued, h.lives⟩

theorem proceeds_adoptClient (w : World) (slot : Slot) (name : Option Bytes) (now : UInt64) :
    w.Proceeds (w.adoptClient slot name now).1 := by
  unfold adoptClient
  split
  · exact .of_registry rfl rfl
  · dsimp only
    split
    · rename_i hnone
      rw [pickForBot_none hnone]
      exact .of_registry rfl rfl
    · exact (proceeds_adoptEntry _ slot name now _ _).after_pick

theorem proceeds_hookOnClientConnectedPost (w : World) (slot : Int)
    (name networkId : Option Bytes) (fakePlayer : Bool) (now : UInt64) :
    w.Proceeds (w.hookOnClientConnectedPost slot name networkId fakePlayer now) := by
  have hrefl : w.Proceeds w := .of_registry rfl rfl
  unfold hookOnClientConnectedPost
  split
  · exact hrefl
  · split
    · exact hrefl
    · split
      · exact hrefl
      · split
        · exact hrefl
        · split
          · exact hrefl
          · exact proceeds_adoptClient ..

/-- **Step lemma.** Every event but the avatar commands, their reads and those that connect
or disconnect the bridge leaves the reads as they are, and the lifetimes go on, end or
begin. -/
theorem proceeds_step (h : w.Sane) {e : Event} (hr : e.reads = false) :
    w.Proceeds (w.step e) := by
  cases hd : e.atDesk with
  | true =>
    cases e with
    | clientConnected => exact proceeds_hookOnClientConnectedPost w ..
    | bhAttach =>
      unfold World.step bhAttach FakeClientManager.attach
      dsimp only
      split
      · exact .of_registry rfl rfl
      · refine ⟨rfl, rfl, fun hw => ?_, rfl, rfl, List.suffix_rfl, fun s => Or.inl ⟨rfl, .refl _⟩⟩
        exact (Bool.and_true _).trans (Bool.and_eq_true_iff.mp hw).1
    | _ => exact absurd (hd.symm.trans hr) (by decide)
  | false =>
    have hdesk := desk_step h.loaded hd
    cases hq : e.requests with
    | false => exact .of_desk hdesk ((step_leases h.good h.loaded hq).continues hdesk)
    | true =>
      cases e with
      | processOverrides env => exact .of_desk hdesk (continues_processOverrides w env)
      | startChangeLevel env => exact proceeds_hookStartChangeLevelPre w env
      | levelInit gate => exact proceeds_onLevelInit w gate
      | levelShutdown env => exact proceeds_onLevelShutdown w env
      | bhSetAvatar => cases hr
      | trySetBotAvatar => cases hr
      | finishAvatarReads => cases hr
      | _ => cases hq

end BotHider.Model
