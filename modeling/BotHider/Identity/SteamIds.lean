import BotHider.Identity.Changes

/-!
# BotHider — SteamIDs of managed slots

Identities come from the pool (`AdoptClient`) and from the bridge
(`ApplySteamIdCommand`), each with its own collision check.

* `World.Carried` — the clients of managed slots carry the slots' SteamIDs. Every
  event keeps it (`carried_step`), as long as the engine does not write the two
  fields of those clients (`KeepsSteamIds`).
* `World.GivesFresh` — a slot is never given a SteamID that another client in the
  list has (`givesFresh_step`).
* `steam_ids_unique` — both along every run, with the registry's uniqueness.
-/

namespace BotHider.Model

open World Engine

variable {w w' : World} {slot : Slot}

/-! ## Clients carry their slots' SteamIDs -/

/-- Both SteamID fields of a client hold a value. -/
def Client.Carries (c : Client) (sid : UInt64) : Prop := c.steamId = sid ∧ c.steamIdMirror = sid

/-- The client of every managed slot carries the slot's SteamID. -/
def World.Carried (w : World) : Prop :=
  ∀ (s : Slot) c, w.manager.isManaged s = true → w.engine.resolveClientBySlot s = some c →
    c.Carries (w.manager.getSyntheticSid s)

/-- What the engine promises: it does not write the SteamID fields of a managed slot's
client, and one it shows again still has what it had. -/
def KeepsSteamIds (w : World) : Event → Prop
  | .engine e => ∀ (s : Slot) c', w.manager.isManaged s = true →
      e.resolveClientBySlot s = some c' →
      (∃ c, w.engine.resolveClientBySlot s = some c ∧ c'.steamId = c.steamId ∧
        c'.steamIdMirror = c.steamIdMirror) ∨
      (w.engine.resolveClientBySlot s = none ∧ c'.Carries (w.manager.getSyntheticSid s))
  | _ => True

theorem carries_writeSteamId (sid : UInt64) (c : Client) : (c.writeSteamId sid).Carries sid :=
  ⟨rfl, rfl⟩

theorem Client.Carries.of_name {c : Client} {sid : UInt64} (h : c.Carries sid)
    {f : Client → Client} (hf : Renames f) : (f c).Carries sid := by
  obtain ⟨name, hname⟩ := hf c
  rw [hname]
  exact h

/-- Nothing is carried where nothing is managed. -/
theorem carried_of_unmanaged (h : ∀ s, w.manager.isManaged s = false) : w.Carried := by
  intro s c hm
  rw [h s] at hm
  cases hm

/-- A change that keeps the slots' records and the clients' SteamIDs keeps `Carried`. -/
theorem World.Carried.of_same (h : w.Carried) (hheld : w'.manager.held = w.manager.held)
    (hclient : ∀ (s : Slot) c', w'.engine.resolveClientBySlot s = some c' →
      ∃ c, w.engine.resolveClientBySlot s = some c ∧ c'.steamId = c.steamId ∧
        c'.steamIdMirror = c.steamIdMirror) : w'.Carried := by
  intro s c' hm hc'
  have hm' : w'.manager.isManaged s = w.manager.isManaged s :=
    congrArg (fun f => (f s).1) hheld
  have hsid : w'.manager.getSyntheticSid s = w.manager.getSyntheticSid s :=
    congrArg (fun f => (f s).2) hheld
  obtain ⟨c, hc, h1, h2⟩ := hclient s c' hc'
  rw [hm'] at hm
  rw [hsid, Client.Carries, h1, h2]
  exact h s c hm hc

theorem World.Carried.of_face (h : w.Carried) (hf : w'.face = w.face) : w'.Carried :=
  h.of_same (congrArg Face.held hf) fun s c' hc' => ⟨c', (client_of_face hf s).symm.trans hc', rfl, rfl⟩

/-- The disguise operations write no SteamID. -/
theorem World.Carried.of_agree (h : w.Carried) (hheld : w'.manager.held = w.manager.held)
    (ha : SameButFlags w.engine w'.engine) : w'.Carried := by
  refine h.of_same hheld fun s c' hc' => ?_
  obtain ⟨c, hc, hid⟩ := ha.exists_client hc'
  exact ⟨c, hc, (congrArg Client.steamId hid : _), (congrArg Client.steamIdMirror hid : _)⟩

/-- An operation on one slot has only that slot to account for. -/
theorem World.Carried.of_confined (h : w.Carried) (hc : Confined slot w w')
    (hself : w'.manager.isManaged slot = true → ∀ c,
      w'.engine.resolveClientBySlot slot = some c → c.Carries (w'.manager.getSyntheticSid slot)) :
    w'.Carried := by
  intro s c hm hcl
  rcases eq_or_ne s slot with rfl | hs
  · exact hself hm c hcl
  · rw [hc.isManaged hs] at hm
    rw [hc.client hs] at hcl
    rw [hc.getSyntheticSid hs]
    exact h s c hm hcl

/-- A release leaves the slot nothing to carry. -/
theorem World.Carried.of_released (h : w.Carried) (hc : Confined slot w w')
    (hm : w'.manager.isManaged slot = false) : w'.Carried :=
  h.of_confined hc fun hm' => by
    rw [hm] at hm'
    cases hm'

/-! ## Steps -/

theorem carried_reapplyDisguise (h : w.Carried) : w.reapplyDisguise.Carried := by
  intro s c' hm hc'
  change w.manager.isManaged s = true at hm
  change (applyManagedDisguise w.manager w.isDisguiseEnabled w.engine).resolveClientBySlot s =
    some c' at hc'
  change c'.Carries (w.manager.getSyntheticSid s)
  cases hc : w.engine.resolveClientBySlot s with
  | none =>
    rw [client_applyManagedDisguise_of_not _ (Or.inr hc), hc] at hc'
    cases hc'
  | some c =>
    rw [client_applyManagedDisguise _ hm hc] at hc'
    obtain rfl := Option.some.inj hc'
    have hcc := h s c hm hc
    unfold disguisedClient
    dsimp only
    split
    · exact carries_writeSteamId _ _
    · cases w.isDisguiseEnabled with
      | true => exact hcc
      | false => exact hcc

theorem carried_destroy (h : w.Carried) (snapshot : Option ScopedBotIdentityRestore) :
    (w.destroy snapshot).Carried := by
  cases snapshot with
  | none => exact h
  | some snapshots => exact h.of_agree rfl (agree_restore w.manager snapshots w.engine)

theorem carried_beginPopulationFrame (h : w.Carried) (hook : PopulationHook) (enabled : Bool) :
    (w.beginPopulationFrame hook enabled).Carried := by
  have hbegin : ∀ w : World, w.Carried → (w.beginPopulationTransaction true).Carried := by
    intro w h
    unfold beginPopulationTransaction
    split
    · exact h.of_agree rfl (agree_capture w.manager w.engine)
    · exact h
  cases enabled with
  | false => exact h
  | true => exact hbegin { w with hooks := w.hooks.push (.population hook true) } h

theorem carried_endPopulationFrame (h : w.Carried) (hook : PopulationHook) (redisguise : Bool) :
    (w.endPopulationFrame hook redisguise).Carried := by
  have hend : ∀ w : World, w.Carried → (w.endPopulationTransaction redisguise).Carried := by
    intro w h
    unfold endPopulationTransaction
    split
    · exact h
    · dsimp only
      split
      · exact h
      · have hrestored := carried_destroy (w := { w with
          hooks :=
            { w.hooks with
              populationTransactionDepth := 0
              populationTransactionRedisguise := false
              populationIdentity := none } }) h w.hooks.populationIdentity
        split
        · exact carried_reapplyDisguise hrestored
        · exact hrestored
  unfold endPopulationFrame
  split
  · dsimp only
    split
    · exact hend _ h
    · exact h
  · exact h

theorem carried_beginScopedFrame (h : w.Carried) (hook : ScopedHook) :
    (w.beginScopedFrame hook).Carried := by
  unfold beginScopedFrame
  split
  · exact h.of_agree rfl (agree_capture w.manager w.engine)
  · exact h

theorem carried_endScopedFrame (h : w.Carried) (hook : ScopedHook) :
    (w.endScopedFrame hook).Carried := by
  unfold endScopedFrame
  split
  · exact carried_destroy (w := { w with hooks := w.hooks.pop (Frame.isScoped hook) }) h _
  · exact h

theorem World.Moded.carried {w w' : World} (hw : w.Moded w') (h : w.Carried) : w'.Carried := by
  refine hw.rule (fun v hv => h.of_face hv) fun v mode hv => ?_
  unfold commitIdentityMode
  dsimp only
  split
  · exact hv
  · exact carried_reapplyDisguise hv

theorem carried_adoptClient (h : w.Carried) (slot : Slot) (name : Option Bytes) (now : UInt64) :
    (w.adoptClient slot name now).1.Carried := by
  refine h.of_confined (confined_adoptClient w slot name now) fun hm c hc => ?_
  rcases adoptClient_cases w slot name now with hw | ⟨_, pick, entry, -, -, -, -, hw⟩
  · rw [hw] at hm hc ⊢
    exact h slot c hm hc
  · rw [hw] at hc ⊢
    rw [client_adoptEntry] at hc
    obtain ⟨c₀, -, rfl⟩ := Option.map_eq_some_iff.mp hc
    rw [show FakeClientManager.getSyntheticSid _ slot = entry.steamId64 from
      congrArg Prod.snd (held_adoptEntry _ slot name now pick entry)]
    split
    · exact carries_writeSteamId _ c₀
    · exact carries_writeSteamId _ c₀

theorem carried_applyClientName (h : w.Carried) (call : SetNameCall) (slot : Slot)
    (name : Bytes) : (w.applyClientName call slot name).1.Carried := by
  refine h.of_confined (confined_applyClientName w call slot name) fun hm c hc => ?_
  have hheld := congrFun (held_applyClientName w call slot name) slot
  obtain ⟨f, hf, hres⟩ := client_applyClientName w call slot name
  rw [hres] at hc
  obtain ⟨c₀, hc₀, rfl⟩ := Option.map_eq_some_iff.mp hc
  have hm' : w.manager.isManaged slot = true := (congrArg Prod.fst hheld).symm.trans hm
  rw [show FakeClientManager.getSyntheticSid _ slot = w.manager.getSyntheticSid slot from
    congrArg Prod.snd hheld]
  exact (h slot c₀ hm' hc₀).of_name hf

theorem carried_releaseManagedHltvSlot (h : w.Carried) (call : SetNameCall) (slot : Slot) :
    (w.releaseManagedHltvSlot call slot).1.Carried := by
  rcases hltv_cases w call slot with hw | ⟨_, -, -, -, -, hm, -⟩
  · rw [hw]
    exact h
  · exact h.of_released (confined_releaseManagedHltvSlot w call slot) hm

theorem carried_hookClientPutInServerPost (h : w.Carried) (call : SetNameCall) {slot : Int}
    {index : Slot} (hi : slotOf slot = some index) (name : Option Bytes) :
    (w.hookClientPutInServerPost call slot name).Carried := by
  have hconf := confined_hookClientPutInServerPost w call hi name
  rcases putInServer_cases w call hi name with
    hw | ⟨hm, client, hc, ⟨-, hw⟩ | ⟨-, hw⟩ | ⟨-, hw⟩⟩
  · rw [hw]
    exact h
  · rw [hw]
    exact carried_releaseManagedHltvSlot h call index
  · rw [hw] at hconf ⊢
    exact h.of_released hconf (isManaged_releaseSlot _ index)
  · rw [hw] at hconf ⊢
    refine h.of_confined hconf fun _ c hc' => ?_
    obtain ⟨f, hf, hres⟩ := client_reapplyIdentity w call index name
    rw [hres, hc] at hc'
    obtain rfl := Option.some.inj hc'
    rw [show FakeClientManager.getSyntheticSid _ index = w.manager.getSyntheticSid index from
      congrArg (fun f => (f index).2) (held_reapplyIdentity w call index name)]
    exact (carries_writeSteamId _ _).of_name hf

theorem carried_hookClientDisconnectPre (h : w.Carried) {slot : Int} {index : Slot}
    (hi : slotOf slot = some index) (targeted : Bool) :
    (w.hookClientDisconnectPre slot targeted).Carried := by
  have hconf := confined_hookClientDisconnectPre w hi targeted
  rcases disconnect_cases w hi targeted with ⟨-, hw⟩ | ⟨-, -, hw⟩ | ⟨-, -, hw⟩
  · rw [hw]
    exact h
  · rw [hw] at hconf ⊢
    exact h.of_released hconf (isManaged_releaseSlot _ index)
  · exact h.of_released hconf
      ((isManaged_of_face hw index).trans (isManaged_releaseSlot _ index))

theorem carried_applySteamIdCommand (h : w.Carried) (slot : Slot) (sid : UInt64) :
    (w.applySteamIdCommand slot sid).1.Carried := by
  refine h.of_confined (confined_applySteamIdCommand w slot sid) fun hm c hc => ?_
  rcases applySteamIdCommand_cases w slot sid with ⟨hw, -⟩ | ⟨-, -, hman, hcl, -⟩
  · rw [hw] at hm hc ⊢
    exact h slot c hm hc
  · rw [hcl] at hc
    obtain ⟨c₀, -, rfl⟩ := Option.map_eq_some_iff.mp hc
    rw [hman, show (w.manager.setSyntheticSid slot sid).getSyntheticSid slot = sid from
      congrArg Prod.snd (held_setSyntheticSid w.manager slot sid)]
    exact carries_writeSteamId _ _

theorem carried_bhSetSteamId (h : w.Carried) (slot : Int) (incarnation steamId : UInt64)
    (alloc : Bool) : (w.bhSetSteamId slot incarnation steamId alloc).1.Carried := by
  rcases bhSetSteamId_cases w slot incarnation steamId alloc with ⟨index, -, hw⟩ | hw
  · rw [hw]
    exact carried_applySteamIdCommand h index steamId
  · rw [hw]
    exact h

theorem carried_bhSetName (h : w.Carried) (call : SetNameCall) (slot : Int)
    (incarnation : UInt64) (name : Option Bytes) (length : Int) :
    (w.bhSetName call slot incarnation name length).1.Carried := by
  unfold bhSetName
  split
  · exact h
  · split
    · exact h
    · split
      · exact h
      · unfold applyPersonaNameCommand
        split
        · exact h
        · exact carried_applyClientName h call _ _

/-- **Step lemma.** Every event keeps the managed slots' clients carrying their SteamIDs. -/
theorem carried_step (hl : w.plugin.loaded = true) (h : w.Carried) {e : Event}
    (hok : KeepsSteamIds w e) : (w.step e).Carried := by
  cases e with
  | engine e =>
    -- the engine keeps a carried ID, or writes it on a client of its own making
    intro s c' hm hc'
    rcases hok s c' hm hc' with ⟨c, hc, h1, h2⟩ | ⟨-, hc'⟩
    · have hcc := h s c hm hc
      exact ⟨h1.trans hcc.1, h2.trans hcc.2⟩
    · exact hc'
  | clientConnected slot name networkId fakePlayer now =>
    rcases slotOf_cases slot with hn | ⟨index, hi⟩
    · rw [World.step, hookOnClientConnectedPost_of_none hn]
      exact h
    · rcases connected_cases w slot name networkId fakePlayer now with
        hw | ⟨index, _, -, -, -, -, hw⟩
      · rw [World.step, hw]
        exact h
      · rw [World.step, hw]
        exact carried_adoptClient h index name now
  | clientPutInServer call slot name =>
    rcases slotOf_cases slot with hn | ⟨index, hi⟩
    · rw [World.step, hookClientPutInServerPost_of_none hn]
      exact h
    · exact carried_hookClientPutInServerPost h call hi name
  | clientDisconnect slot targeted =>
    rcases slotOf_cases slot with hn | ⟨index, hi⟩
    · rw [World.step, hookClientDisconnectPre_of_none hn]
      exact h
    · exact carried_hookClientDisconnectPre h hi targeted
  | quotaPre => exact carried_beginPopulationFrame h _ _
  | quotaPost => exact carried_endPopulationFrame h _ _
  | humanTeamPre => exact carried_beginPopulationFrame h _ _
  | humanTeamPost => exact carried_endPopulationFrame h _ _
  | joinTeamPre => exact carried_beginPopulationFrame h _ _
  | joinTeamPost => exact carried_endPopulationFrame h _ _
  | endMatchPre => exact carried_beginPopulationFrame h _ _
  | endMatchPost => exact carried_endPopulationFrame h _ _
  | votersPre => exact carried_beginScopedFrame h _
  | votersPost => exact carried_endScopedFrame h _
  | scriptIsBotPre => exact carried_beginScopedFrame h _
  | scriptIsBotPost => exact carried_endScopedFrame h _
  | dispatchPre command botKick =>
    obtain ⟨enabled, w', hw, hface, -⟩ := dispatchPre_cases w command botKick
    rw [World.step, hw]
    exact carried_beginPopulationFrame (h.of_face hface) _ enabled
  | dispatchPost => exact carried_endPopulationFrame h _ _
  | drainControllerRemovals =>
    have hmarks := marks_drainPendingControllerRemovals w
    -- draining changes marks only
    exact h.of_same (congrArg _ hmarks.manager) fun s c' hc' =>
      ⟨c', (hmarks.client s).symm.trans hc', rfl, rfl⟩
  | releaseHltv call slot => exact carried_releaseManagedHltvSlot h call slot
  | startChangeLevel env => exact carried_of_unmanaged (unmanaged_hookStartChangeLevelPre w env)
  | levelInit gate => exact (moded_onLevelInit w gate).carried h
  | levelShutdown env => exact carried_of_unmanaged (unmanaged_onLevelShutdown w env)
  | unload env removed now =>
    rw [World.step, unload_of_loaded hl]
    exact h
  | bhSetSteamId => exact carried_bhSetSteamId h _ _ _ _
  | bhSetName => exact carried_bhSetName h _ _ _ _ _
  | bhSetMode gate mode => exact (moded_bhSetMode w gate mode).carried h
  | setBotSteamId slot steamId64 alloc =>
    rcases setBotSteamId_cases w slot steamId64 alloc with ⟨_, -, hn⟩ | ⟨-, hw⟩
    · exact World.Carried.of_face (carried_bhSetSteamId h slot _ steamId64 alloc) (face_of_native hn)
    · rw [World.step, hw]
      exact h
  | setPersonaName call slot normalized =>
    rcases setPersonaName_cases w call slot normalized with ⟨incarnation, hn⟩ | hw
    · exact World.Carried.of_face (carried_bhSetName h call slot incarnation _ _) (face_of_native hn)
    · rw [World.step, hw]
      exact h
  | _ => exact h.of_face (face_step w rfl)

theorem carried_load (env : LoadEnv) : (World.load env).Carried := by
  refine load_invariant (I := World.Carried) env (carried_of_unmanaged (isManaged_loading env))
    (fun w s h _ => ?_) fun w h => h
  unfold World.adoptExisting adoptExistingBot
  split
  · exact h
  · split
    · exact h
    · split
      · exact h
      · dsimp only
        split
        · exact carried_applyClientName (carried_adoptClient h s _ _) _ s _
        · exact carried_adoptClient h s _ _

/-! ## New SteamIDs -/

/-- A slot that becomes managed, or gets another SteamID, gets one that no other client
in the list has. -/
def World.GivesFresh (w w' : World) : Prop :=
  ∀ s, w'.manager.isManaged s = true →
    (w.manager.isManaged s = false ∨
      w'.manager.getSyntheticSid s ≠ w.manager.getSyntheticSid s) →
    ∀ (i : Nat) c, i ≠ s.val → w'.engine.resolveClientBySlot i = some c →
      c.steamId ≠ w'.manager.getSyntheticSid s

theorem givesFresh_of_keepsNumbers (h : w.KeepsNumbers w') : w.GivesFresh w' := by
  intro s hm hnew
  have hheld := h s hm
  rcases hnew with hnew | hnew
  · rw [show w.manager.isManaged s = w'.manager.isManaged s from
      (congrArg Prod.fst hheld).symm, hm] at hnew
    cases hnew
  · exact absurd (congrArg Prod.snd hheld) hnew

/-- The occupied set covers every other client, so a nonzero SteamID outside it is
nobody's. -/
theorem World.Numbers.givesFresh (h : w.Numbers slot w')
    (hne : w'.manager.getSyntheticSid slot ≠ 0) : w.GivesFresh w' := by
  intro s hm hnew i c hi hc
  rcases eq_or_ne s slot with rfl | hs
  · obtain ⟨occupied, hocc, hsid⟩ := h.fresh
    rw [h.client i hi] at hc
    exact (notMem_collectOccupiedSteamIds hocc hsid).1 i c hi hc hne
  · have hheld := h.held s hs
    rcases hnew with hnew | hnew
    · rw [show w.manager.isManaged s = w'.manager.isManaged s from
        (congrArg Prod.fst hheld).symm, hm] at hnew
      cases hnew
    · exact absurd (congrArg Prod.snd hheld) hnew

theorem givesFresh_step (h : w.Sane) (e : Event) : w.GivesFresh (w.step e) := by
  rcases step_numbers w e with hk | ⟨slot, hn⟩
  · exact givesFresh_of_keepsNumbers hk
  · exact hn.givesFresh (((h.step e).good.coupled slot).steamId hn.managed)

theorem givesFresh_adoptExisting (hg : w.registry.Good) (env : LoadEnv) (slot : Slot)
    (hm : w.manager.isManaged slot = false) :
    w.GivesFresh (World.adoptExisting env w slot) := by
  have hgood : (World.adoptExisting env w slot).registry.Good :=
    hg.path (path_adoptExistingBot hg _ _ hm)
  suffices h : w.KeepsNumbers (World.adoptExisting env w slot) ∨
      w.Numbers slot (World.adoptExisting env w slot) by
    rcases h with hk | hn
    · exact givesFresh_of_keepsNumbers hk
    · exact hn.givesFresh ((hgood.coupled slot).steamId hn.managed)
  have hsame : ∀ {w' : World}, w' = w → w.KeepsNumbers w' := fun hw =>
    keepsNumbers_of_held (by rw [hw])
  unfold World.adoptExisting adoptExistingBot
  split
  · exact Or.inl (hsame rfl)
  · split
    · exact Or.inl (hsame rfl)
    · split
      · exact Or.inl (hsame rfl)
      · rename_i client _ _ _
        have hadopt := adoptClient_numbers w slot client.name (env.times slot)
        dsimp only
        split
        · have hheld := held_applyClientName (w.adoptClient slot client.name (env.times slot)).1
            (env.calls slot) slot
          have hconf := confined_applyClientName
            (w.adoptClient slot client.name (env.times slot)).1 (env.calls slot) slot
          rcases hadopt with hw | hn
          · refine Or.inl (keepsNumbers_of_held ((hheld _).trans ?_))
            rw [hw]
          · exact Or.inr (hn.of_held (hheld _) (hconf _))
        · exact hadopt.imp_left hsame

/-! ## Runs -/

/-- **Run lemma.** `Carried` holds after every run whose engine keeps its promise. -/
theorem carried_run (env : LoadEnv) (es : List Event)
    (h : Runs.Admits World.step KeepsSteamIds (World.load env) es) :
    (World.run env es).Carried := by
  have hinv : (World.run env es).Sane ∧ (World.run env es).Carried :=
    Runs.exec_invariant (I := fun w => w.Sane ∧ w.Carried) ⟨sane_load env, carried_load env⟩
      (fun w e hw hok => ⟨hw.1.step e, carried_step hw.1.loaded hw.2 hok⟩) h
  exact hinv.2

/-- **SteamIDs stay unique.** After every run of a loaded plugin whose engine leaves the
SteamIDs of managed slots' clients alone, managed slots have different, nonzero SteamIDs,
and their clients carry them in both fields; and whenever a slot is given a SteamID, in the
run or while a late load adopts the bots it finds, no other client in the list has it. -/
theorem steam_ids_unique (env : LoadEnv) (es : List Event)
    (h : Runs.Admits World.step KeepsSteamIds (World.load env) es) :
    (∀ s t, s ≠ t → (World.run env es).manager.isManaged s = true →
      (World.run env es).manager.isManaged t = true →
      (World.run env es).manager.getSyntheticSid s ≠ (World.run env es).manager.getSyntheticSid t) ∧
    (∀ s, (World.run env es).manager.isManaged s = true →
      (World.run env es).manager.getSyntheticSid s ≠ 0) ∧
    (World.run env es).Carried ∧
    (∀ e, (World.run env es).GivesFresh ((World.run env es).step e)) ∧
    ∀ (l : List Slot) (s : Slot), l ++ [s] <+: allSlots →
      (l.foldl (World.adoptExisting env) (World.loading env)).GivesFresh
        ((l ++ [s]).foldl (World.adoptExisting env) (World.loading env)) := by
  have hsane := sane_run env es
  refine ⟨hsane.good.unique, fun s => (hsane.good.coupled s).steamId, carried_run env es h,
    givesFresh_step hsane, fun l s hl => ?_⟩
  obtain ⟨hnd, -, hdisj⟩ := List.nodup_append'.mp (allSlots_nodup.sublist hl.sublist)
  have hs : s ∉ l := fun hs => hdisj hs List.mem_cons_self
  have hgood : (l.foldl (World.adoptExisting env) (World.loading env)).registry.Good :=
    adoptExisting_invariant (I := fun w => w.registry.Good) env
      (fun w s hw hm => hw.path (path_adoptExistingBot hw _ _ hm)) hnd
      (fun s _ => isManaged_loading env s) (good_loading env)
  have hfree : (l.foldl (World.adoptExisting env) (World.loading env)).manager.isManaged s = false :=
    (isManaged_adoptExisting_of_notMem env hs _).trans (isManaged_loading env s)
  rw [List.foldl_append]
  exact givesFresh_adoptExisting hgood env s hfree

/-- Two bots connect, and the second gets the SteamID the first did not. -/
theorem steam_ids_unique_two_bots :
    (World.run smallServer [botConnects 0, botConnects 1]).manager.getSyntheticSid 0 ≠
      (World.run smallServer [botConnects 0, botConnects 1]).manager.getSyntheticSid 1 :=
  (steam_ids_unique smallServer [botConnects 0, botConnects 1] ⟨trivial, trivial, trivial⟩).1 0 1
    (by decide) (by decide +kernel) (by decide +kernel)

end BotHider.Model
