import BotHider.Identity.SteamIds

/-!
# BotHider — giving the engine its bots back

A release ends a slot's lifetime while its client may still be there. Most paths undo
the disguise first: fake-player flags, `FL_FAKECLIENT` and the SteamID fields. Two do
not. `ReleaseManagedHltvSlot` takes back the SteamID and leaves the flags, and
`OnLevelShutdown` takes back nothing.

`releases_restore` says for every event exactly when the client it releases is a bot
again (`World.ReleasesWhole`).
-/

namespace BotHider.Model

open World Engine

variable {w : World} {s : Slot}

/-! ## What a release should leave -/

/-- The slot's client and its controller look like a bot's to the engine. -/
def World.LooksBotAt (w : World) (s : Slot) : Prop :=
  ∀ c, w.engine.resolveClientBySlot s = some c →
    c.LooksBot ∧ ∀ k, w.engine.controllerAt s = some k → k.fakeClient = true

/-- The slot's client is the engine's bot again: it looks like one, and both SteamID
fields are zero. -/
def World.Restored (w : World) (s : Slot) : Prop :=
  ∀ c, w.engine.resolveClientBySlot s = some c →
    c.LooksBot ∧ (∀ k, w.engine.controllerAt s = some k → k.fakeClient = true) ∧ c.Carries 0

/-- The event turns the slot unmanaged while a client is still in it. -/
def World.Releases (w : World) (s : Slot) (e : Event) : Prop :=
  w.manager.isManaged s = true ∧ (w.step e).manager.isManaged s = false ∧
    ∃ c, (w.step e).engine.resolveClientBySlot s = some c

/-- The undo that the event leaves out is not needed: a SourceTV client that is released
looks like a bot already, and at the end of a level so does every client, with no
SteamID. -/
def World.ReleasesWhole (w : World) (s : Slot) : Event → Prop
  | .releaseHltv .. => w.LooksBotAt s
  | .clientPutInServer .. =>
    (∃ c, w.engine.resolveClientBySlot s = some c ∧ c.hltv = true) → w.LooksBotAt s
  | .levelShutdown _ => w.Restored s
  | _ => True

/-! ## The paths -/

theorem restored_restoreSlotClient (w : World) (s : Slot) :
    ((w.restoreSlotClient s).releaseSlot s).Restored s := by
  intro c hc
  rw [engine_releaseSlot, client_restoreSlotClient] at hc
  obtain ⟨c₀, -, rfl⟩ := Option.map_eq_some_iff.mp hc
  refine ⟨Client.looksBot_setFakePlayer c₀, fun k hk => ?_, carries_writeSteamId 0 _⟩
  rw [engine_releaseSlot, controller_restoreSlotClient] at hk
  obtain ⟨k₀, -, rfl⟩ := Option.map_eq_some_iff.mp hk
  exact Entity.fakeClient_withFakeClient true k₀

theorem restored_restoreManagedClients (hm : w.manager.isManaged s = true) :
    (w.withEngine (restoreManagedClients w.manager w.engine)).Restored s := by
  intro c hc
  change (restoreManagedClients w.manager w.engine).resolveClientBySlot s = some c at hc
  rw [client_restoreManagedClients hm] at hc
  obtain ⟨c₀, -, rfl⟩ := Option.map_eq_some_iff.mp hc
  exact ⟨Client.looksBot_setFakePlayer c₀,
    fun k hk => fakeClient_restoreManagedClients hm hk, carries_writeSteamId 0 _⟩

theorem World.Restored.of_face {w' : World} (h : w.Restored s) (hf : w'.face = w.face) :
    w'.Restored s := by
  intro c hc
  rw [client_of_face hf] at hc
  rw [controller_of_face hf]
  exact h c hc

/-- A SourceTV client gets its SteamID fields back, and keeps the flags it has. -/
theorem restored_releaseManagedHltvSlot (call : SetNameCall) {client : Client}
    (hm : w.manager.isManaged s = true) (hc : w.engine.resolveClientBySlot s = some client)
    (hltv : client.hltv = true) :
    (w.releaseManagedHltvSlot call s).1.Restored s ↔ w.LooksBotAt s := by
  have hreleased := hltv_of_managed hm hc call
  rcases hltv_cases w call s with hw | ⟨client', hc', -, -, -, -, hctl, f, hf, hres⟩
  · rw [hw, hltv] at hreleased
    cases hreleased
  · rw [hc, Option.some.injEq] at hc'
    subst hc'
    obtain ⟨name, hname⟩ := hf (client.writeSteamId 0)
    rw [hname] at hres
    unfold Restored LooksBotAt
    rw [hres, hctl, hc]
    constructor
    · intro h c hcc
      rw [← Option.some.inj hcc]
      obtain ⟨hbot, hfl, -⟩ := h _ rfl
      exact ⟨hbot, hfl⟩
    · intro h c hcc
      rw [← Option.some.inj hcc]
      obtain ⟨hbot, hfl⟩ := h client rfl
      exact ⟨hbot, hfl, rfl, rfl⟩

/-- What is left of the engine when an unload is not refused: the managed clients are given
back, and the module has dropped its entity system. -/
theorem engine_unload {env : PassEnv} {removed : Bool} {now : UInt64}
    (hm : w.manager.isManaged s = true)
    (hu : (w.unload env removed now).manager.isManaged s = false) :
    (w.unload env removed now).engine =
      { restoreManagedClients w.manager w.engine with
        entitySystem := false, utilRemove := false } := by
  unfold unload at hu ⊢
  split at hu
  · rw [hm] at hu
    cases hu
  · split at hu
    · change w.manager.isManaged s = false at hu
      rw [hm] at hu
      cases hu
    · rename_i hloaded hremoved
      rw [if_neg hloaded, if_neg hremoved]
      rfl

theorem restored_unload {env : PassEnv} {removed : Bool} {now : UInt64}
    (hm : w.manager.isManaged s = true)
    (hu : (w.unload env removed now).manager.isManaged s = false) :
    (w.unload env removed now).Restored s := by
  have hengine := engine_unload hm hu
  intro c hc
  rw [hengine] at hc
  obtain ⟨hbot, -, hcarries⟩ := restored_restoreManagedClients hm c hc
  refine ⟨hbot, fun k hk => ?_, hcarries⟩
  -- no controller resolves any more
  rw [hengine, controllerAt_of_entitySystem _ rfl] at hk
  cases hk

/-- The engine has the controllers flagged again that the module no longer resolves. -/
theorem fakeClient_unload {env : PassEnv} {removed : Bool} {now : UInt64}
    (hrel : w.Releases s (.unload env removed now)) {k : Entity}
    (hk : { (w.step (.unload env removed now)).engine with
      entitySystem := w.engine.entitySystem }.controllerAt s = some k) :
    k.fakeClient = true := by
  obtain ⟨hm, hu, -⟩ := hrel
  have hengine : (w.step (.unload env removed now)).engine = _ := engine_unload hm hu
  have hsystem := (agree_restoreManagedClients w.manager w.engine).entitySystem
  rw [hengine, ← hsystem] at hk
  exact fakeClient_restoreManagedClients hm hk

/-! ## Every event -/

/-- **Step lemma.** A released client is the engine's bot again exactly when the event
undoes the disguise or there is none to undo. -/
theorem restored_step_iff {e : Event} (h : w.Releases s e) :
    (w.step e).Restored s ↔ w.ReleasesWhole s e := by
  obtain ⟨hm, hu, c', hc'⟩ := h
  have hkept : ∀ {w' : World}, w' = w → w'.manager.isManaged s = false → False := by
    rintro w' rfl h
    rw [hm] at h
    cases h
  cases hrel : e.releases with
  | false =>
    rw [isManaged_step w hrel hm] at hu
    cases hu
  | true =>
    cases e with
    | clientPutInServer call slot name =>
      rcases slotOf_cases slot with hn | ⟨index, hi⟩
      · exact (hkept (hookClientPutInServerPost_of_none hn w call name) hu).elim
      · rcases eq_or_ne s index with rfl | hs
        · unfold World.step at hu ⊢
          dsimp only at hu ⊢
          rcases putInServer_cases w call hi name with
            hw | ⟨-, client, hc, ⟨hltv, hw⟩ | ⟨hltv, hw⟩ | ⟨-, hw⟩⟩
          · exact (hkept hw hu).elim
          · rw [hw, restored_releaseManagedHltvSlot call hm hc hltv]
            exact ⟨fun h _ => h, fun h => h ⟨client, hc, hltv⟩⟩
          · rw [hw]
            refine iff_of_true (restored_restoreSlotClient w s) ?_
            rintro ⟨c, hc₂, hltv₂⟩
            rw [hc, Option.some.injEq] at hc₂
            rw [hc₂, hltv₂] at hltv
            cases hltv
          · rw [hw, show FakeClientManager.isManaged _ s = w.manager.isManaged s from
              congrArg (fun f => (f s).1) (held_reapplyIdentity w call s name), hm] at hu
            cases hu
        · have hconf := confined_hookClientPutInServerPost w call hi name
          rw [World.step, hconf.isManaged hs, hm] at hu
          cases hu
    | clientDisconnect slot targeted =>
      rcases slotOf_cases slot with hn | ⟨index, hi⟩
      · exact (hkept (hookClientDisconnectPre_of_none hn w targeted) hu).elim
      · rcases eq_or_ne s index with rfl | hs
        · unfold World.step at hc' ⊢
          dsimp only at hc' ⊢
          rcases disconnect_cases w hi targeted with ⟨-, hw⟩ | ⟨-, hn, hw⟩ | ⟨-, -, hw⟩
          · exact (hkept hw hu).elim
          · rw [hw, engine_releaseSlot, hn] at hc'
            cases hc'
          · exact iff_of_true ((restored_restoreSlotClient w s).of_face hw) trivial
        · have hconf := confined_hookClientDisconnectPre w hi targeted
          rw [World.step, hconf.isManaged hs, hm] at hu
          cases hu
    | releaseHltv call slot =>
      rcases eq_or_ne s slot with rfl | hs
      · rcases hltv_cases w call s with hw | ⟨client, hc, -, hltv, -⟩
        · exact (hkept (congrArg Prod.fst hw) hu).elim
        · exact restored_releaseManagedHltvSlot call hm hc hltv
      · have hconf := confined_releaseManagedHltvSlot w call slot
        rw [World.step, hconf.isManaged hs, hm] at hu
        cases hu
    | startChangeLevel env =>
      refine iff_of_true (World.Restored.of_face (w := World.releaseAll (w.withEngine _)) ?_
        (face_processOverrides _ env)) trivial
      exact restored_restoreManagedClients hm
    | levelShutdown env => exact Iff.rfl
    | unload env removed now => exact iff_of_true (restored_unload hm hu) trivial
    | _ => cases hrel

/-- **Releases.** In whatever state an event releases a slot whose client is still there,
the client is the engine's bot again exactly when the event undoes the disguise or there is
none to undo. So in a run where every release is one of those, each gives its bot back. An
unload that releases the slot also leaves `FL_FAKECLIENT` on the controller that the engine
has for it, though the module has dropped the entity system it resolved controllers with. -/
theorem releases_restore (w : World) (env : LoadEnv) (es : List Event) :
    (∀ e s, w.Releases s e → ((w.step e).Restored s ↔ w.ReleasesWhole s e)) ∧
    (Runs.Admits World.step (fun w e => ∀ s, w.Releases s e → w.ReleasesWhole s e)
        (World.load env) es →
      ∀ es₁ e es₂, es = es₁ ++ e :: es₂ → ∀ s, (World.run env es₁).Releases s e →
        (World.run env (es₁ ++ [e])).Restored s) ∧
    (∀ pass removed now s, w.Releases s (.unload pass removed now) →
      ∀ k, { (w.step (.unload pass removed now)).engine with
        entitySystem := w.engine.entitySystem }.controllerAt s = some k →
      k.fakeClient = true) := by
  refine ⟨fun e s => restored_step_iff, fun hok es₁ e es₂ hes s hrel => ?_,
    fun pass removed now s hrel k => fakeClient_unload hrel⟩
  subst hes
  have hlast : World.run env (es₁ ++ [e]) = (World.run env es₁).step e := Runs.exec_append ..
  rw [hlast]
  exact (restored_step_iff hrel).mpr (hok.at s hrel)

/-- A bot that disconnects is given back. -/
theorem releases_restore_disconnect :
    (World.run smallServer [botConnects 0, .clientDisconnect 0 false]).Restored 0 :=
  ((releases_restore (World.run smallServer [botConnects 0]) smallServer []).1
    (.clientDisconnect 0 false) 0 ⟨by decide +kernel, by decide +kernel,
      Option.isSome_iff_exists.mp (by decide +kernel)⟩).mpr trivial

/-- The bot in slot `0`, which connected under a name of its own, turns out to be
SourceTV. -/
def sourceTvFound : Event :=
  .engine ((World.run smallServer [botConnects 0]).engine.modifyClient 0 fun c =>
    { c with hltv := true })

/-- In Player mode a released SourceTV client keeps a human's fake-player byte. -/
theorem sourceTv_not_restored :
    ¬ ∀ (env : LoadEnv) (es : List Event) (e : Event) (s : Slot),
      (World.run env es).Releases s e → (World.run env (es ++ [e])).Restored s := by
  intro h
  have hbyte : ((World.run smallServer [botConnects 0, sourceTvFound,
      .releaseHltv {} 0]).engine.resolveClientBySlot 0).map Client.fakePlayer = some 0 := by
    decide +kernel
  obtain ⟨c, hc, h0⟩ := Option.map_eq_some_iff.mp hbyte
  have hbot := (h smallServer [botConnects 0, sourceTvFound] (.releaseHltv {} 0) 0
    ⟨by decide +kernel, by decide +kernel, Option.isSome_iff_exists.mp (by decide +kernel)⟩ c
    hc).1.1
  rw [h0] at hbot
  exact absurd hbot (by decide)

end BotHider.Model
