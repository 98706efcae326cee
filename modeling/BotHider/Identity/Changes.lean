import BotHider.Model.SlotSpecs
import BotHider.Registry.Runs

/-!
# BotHider — which slots an event gives, renumbers or takes

Of all events only six can end a slot's lifetime (`Event.releases`). Any other one
keeps the slots' records, or gives one slot a SteamID outside the occupied set
(`World.Numbers`): that is all an event does to who is managed under what
(`step_held`, `step_numbers`).
-/

namespace BotHider.Model

open World

variable {w w' w'' : World} {slot : Slot}

/-! ## Kinds of changes -/

/-- The events that can turn a managed slot unmanaged. -/
def Event.releases : Event → Bool
  | .clientPutInServer .. | .clientDisconnect .. | .releaseHltv .. | .startChangeLevel _
  | .levelShutdown _ | .unload .. => true
  | _ => false

/-- Every slot that is managed afterwards was managed before, under the same SteamID. -/
def World.KeepsNumbers (w w' : World) : Prop :=
  ∀ s, w'.manager.isManaged s = true → w'.manager.held s = w.manager.held s

/-- One slot, managed afterwards, is given a SteamID outside the occupied set. -/
structure World.Numbers (slot : Slot) (w w' : World) : Prop where
  fresh : ∃ occupied, collectOccupiedSteamIds w.manager w.engine slot = some occupied ∧
    w'.manager.getSyntheticSid slot ∉ occupied
  managed : w'.manager.isManaged slot = true
  held : ∀ t, t ≠ slot → w'.manager.held t = w.manager.held t
  client : ∀ i, i ≠ slot.val → w'.engine.resolveClientBySlot i = w.engine.resolveClientBySlot i

theorem World.Numbers.of_face (h : w.Numbers slot w') (hf : w''.face = w'.face) :
    w.Numbers slot w'' where
  fresh := by rw [getSyntheticSid_of_face hf]; exact h.fresh
  managed := (isManaged_of_face hf slot).trans h.managed
  held t ht := (congrArg (fun f : Face => f.held t) hf : _).trans (h.held t ht)
  client i hi := (client_of_face hf i).trans (h.client i hi)

/-- What follows on the slot and keeps its record keeps the new SteamID. -/
theorem World.Numbers.of_held (h : w.Numbers slot w') (hheld : w''.manager.held = w'.manager.held)
    (hc : Confined slot w' w'') : w.Numbers slot w'' where
  fresh := by
    rw [show w''.manager.getSyntheticSid slot = w'.manager.getSyntheticSid slot from
      congrArg (fun f => (f slot).2) hheld]
    exact h.fresh
  managed := (congrArg (fun f => (f slot).1) hheld : _).trans h.managed
  held t ht := (hc.held t ht).trans (h.held t ht)
  client i hi := (hc.engine.client i hi).trans (h.client i hi)

theorem held_of_face (h : w'.face = w.face) : w'.manager.held = w.manager.held :=
  congrArg Face.held h

theorem held_of_shell (h : w'.shell = w.shell) : w'.manager.held = w.manager.held :=
  (congrArg (fun w : World => w.manager.held) h : w'.shell.manager.held = w.shell.manager.held)

theorem held_of_registry (h : w'.registry = w.registry) : w'.manager.held = w.manager.held :=
  funext fun s => congrArg (fun r : Registry => ((r.holding s).managed, (r.holding s).steamId)) h

theorem keepsNumbers_of_held (h : w'.manager.held = w.manager.held) : w.KeepsNumbers w' :=
  fun s _ => congrFun h s

theorem keepsNumbers_of_unmanaged (h : ∀ s, w'.manager.isManaged s = false) :
    w.KeepsNumbers w' := fun s hm => by
  rw [h s] at hm
  cases hm

/-- A slot given up has no SteamID to speak of. -/
theorem keepsNumbers_of_released (hc : Confined slot w w')
    (hm : w'.manager.isManaged slot = false) : w.KeepsNumbers w' := by
  intro s hs
  rcases eq_or_ne s slot with rfl | hne
  · rw [hm] at hs
    cases hs
  · exact hc.held s hne

/-! ## Events that release nothing -/

theorem adoptClient_numbers (w : World) (slot : Slot) (name : Option Bytes) (now : UInt64) :
    (w.adoptClient slot name now).1 = w ∨ w.Numbers slot (w.adoptClient slot name now).1 := by
  have hconf := confined_adoptClient w slot name now
  rcases adoptClient_cases w slot name now with
    hw | ⟨occupied, pick, entry, hocc, -, hentry, hsid, hw⟩
  · exact Or.inl (by rw [hw])
  · have hheld : (w.adoptClient slot name now).1.manager.held slot = (true, entry.steamId64) := by
      rw [hw]
      exact held_adoptEntry _ slot name now pick entry
    have hnew : (w.adoptClient slot name now).1.manager.getSyntheticSid slot = entry.steamId64 :=
      congrArg Prod.snd hheld
    exact Or.inr ⟨⟨occupied, hocc, by rwa [hnew]⟩, congrArg Prod.fst hheld, hconf.held,
      hconf.engine.client⟩

theorem bhSetSteamId_numbers (w : World) (slot : Int) (incarnation steamId : UInt64)
    (alloc : Bool) : (w.bhSetSteamId slot incarnation steamId alloc).1 = w ∨
      ∃ index, w.Numbers index (w.bhSetSteamId slot incarnation steamId alloc).1 := by
  rcases bhSetSteamId_cases w slot incarnation steamId alloc with ⟨index, htarget, hb⟩ | hb
  · rcases applySteamIdCommand_cases w index steamId with ⟨hw, -⟩ | ⟨havail, -, hman, -, -⟩
    · exact Or.inl (by rw [hb, hw])
    · obtain ⟨hne, occupied, hocc, hsid⟩ := available_of_checkSteamIdAvailability havail
      have hconf := confined_applySteamIdCommand w index steamId
      have hheld : (w.applySteamIdCommand index steamId).1.manager.held index =
          (w.manager.isManaged index, steamId) := by
        rw [hman]
        exact held_setSyntheticSid w.manager index steamId
      have hnew : (w.applySteamIdCommand index steamId).1.manager.getSyntheticSid index =
          steamId := congrArg Prod.snd hheld
      rw [hb]
      exact Or.inr ⟨index, ⟨occupied, hocc, by rwa [hnew]⟩,
        (congrArg Prod.fst hheld).trans (managed_of_target htarget).1, hconf.held,
        hconf.engine.client⟩
  · exact Or.inl (by rw [hb])

/-- An event that releases nothing keeps the slots' records, or gives one slot a new
SteamID. -/
theorem step_held (w : World) {e : Event} (h : e.releases = false) :
    (w.step e).manager.held = w.manager.held ∨ ∃ slot, w.Numbers slot (w.step e) := by
  have hsame : ∀ {w' : World}, w' = w → w'.manager.held = w.manager.held := fun hw => by rw [hw]
  cases e with
  | clientConnected slot name networkId fakePlayer now =>
    rcases connected_cases w slot name networkId fakePlayer now with
      hw | ⟨index, _, -, -, -, -, hw⟩
    · exact Or.inl (hsame hw)
    · rw [World.step, hw]
      rcases adoptClient_numbers w index name now with hw' | hw'
      · exact Or.inl (hsame hw')
      · exact Or.inr ⟨index, hw'⟩
  | levelInit gate =>
    have hreset := held_of_face (face_resetRuntime w)
    exact Or.inl ((held_of_registry (registry_onLevelInit w gate)).trans hreset)
  | bhSetSteamId slot incarnation steamId alloc =>
    rcases bhSetSteamId_numbers w slot incarnation steamId alloc with hw | ⟨index, hw⟩
    · exact Or.inl (hsame hw)
    · exact Or.inr ⟨index, hw⟩
  | bhSetName call slot incarnation name length =>
    exact Or.inl (held_bhSetName w call slot incarnation name length)
  | bhSetMode gate mode =>
    exact Or.inl (held_of_registry (registry_of_hull (hull_bhSetMode w gate mode)))
  | setBotSteamId slot steamId64 alloc =>
    rcases setBotSteamId_cases w slot steamId64 alloc with ⟨_, -, hn⟩ | ⟨-, hw⟩
    · have hface := face_of_native hn
      rcases bhSetSteamId_numbers w slot _ steamId64 alloc with hw | ⟨index, hw⟩
      · exact Or.inl ((held_of_face hface).trans (hsame hw))
      · exact Or.inr ⟨index, hw.of_face hface⟩
    · exact Or.inl (hsame hw)
  | setPersonaName call slot normalized =>
    rcases setPersonaName_cases w call slot normalized with ⟨incarnation, hn⟩ | hw
    · exact Or.inl ((held_of_face (face_of_native hn)).trans
        (held_bhSetName w call slot incarnation _ _))
    · exact Or.inl (hsame hw)
  | clientPutInServer => cases h
  | clientDisconnect => cases h
  | releaseHltv => cases h
  | startChangeLevel => cases h
  | levelShutdown => cases h
  | unload => cases h
  | _ =>
    first
    | exact Or.inl (held_of_shell (shell_step w rfl))
    | exact Or.inl (held_of_face (face_step w rfl))

/-- So it leaves every managed slot managed. -/
theorem isManaged_step (w : World) {e : Event} (h : e.releases = false) {s : Slot}
    (hm : w.manager.isManaged s = true) : (w.step e).manager.isManaged s = true := by
  rcases step_held w h with hheld | ⟨slot, hn⟩
  · exact (congrArg (fun f => (f s).1) hheld : _).trans hm
  · rcases eq_or_ne s slot with rfl | hs
    · exact hn.managed
    · exact (congrArg Prod.fst (hn.held s hs) : _).trans hm

/-! ## Events that release -/

theorem unmanaged_hookStartChangeLevelPre (w : World) (env : PassEnv) (s : Slot) :
    (w.hookStartChangeLevelPre env).manager.isManaged s = false :=
  isManaged_of_face (face_processOverrides (World.releaseAll (w.withEngine _)) env) s

theorem unmanaged_onLevelShutdown (w : World) (env : PassEnv) (s : Slot) :
    (w.onLevelShutdown env).manager.isManaged s = false :=
  isManaged_of_face ((face_resetRuntime (w.releaseAll.processOverrides env)).trans
    (face_processOverrides w.releaseAll env)) s

theorem keepsNumbers_unload (w : World) (env : PassEnv) (removed : Bool) (now : UInt64) :
    w.KeepsNumbers (w.unload env removed now) := by
  unfold unload
  split
  · exact keepsNumbers_of_held rfl
  · split
    · exact keepsNumbers_of_held rfl
    · exact keepsNumbers_of_unmanaged fun _ => rfl

/-- What an event can do to the slots' SteamIDs: give one slot a new one, or none. -/
theorem step_numbers (w : World) (e : Event) :
    w.KeepsNumbers (w.step e) ∨ ∃ slot, w.Numbers slot (w.step e) := by
  have hsame : ∀ {w' : World}, w' = w → w.KeepsNumbers w' := fun hw =>
    keepsNumbers_of_held (by rw [hw])
  cases hrel : e.releases with
  | false => exact (step_held w hrel).imp_left keepsNumbers_of_held
  | true =>
    left
    cases e with
    | clientPutInServer call slot name =>
      rcases slotOf_cases slot with hn | ⟨index, hi⟩
      · exact hsame (hookClientPutInServerPost_of_none hn ..)
      · have hconf := confined_hookClientPutInServerPost w call hi name
        rw [World.step]
        rcases putInServer_cases w call hi name with
          hw | ⟨-, _, -, ⟨-, hw⟩ | ⟨-, hw⟩ | ⟨-, hw⟩⟩
        · exact hsame hw
        · rcases hltv_cases w call index with hw' | ⟨_, -, -, -, -, hm, -⟩
          · exact hsame (hw.trans (congrArg Prod.fst hw'))
          · rw [hw] at hconf ⊢
            exact keepsNumbers_of_released hconf hm
        · rw [hw] at hconf ⊢
          exact keepsNumbers_of_released hconf (isManaged_releaseSlot _ index)
        · rw [hw]
          exact keepsNumbers_of_held (held_reapplyIdentity w call index name)
    | clientDisconnect slot targeted =>
      rcases slotOf_cases slot with hn | ⟨index, hi⟩
      · exact hsame (hookClientDisconnectPre_of_none hn ..)
      · have hconf := confined_hookClientDisconnectPre w hi targeted
        rw [World.step]
        rcases disconnect_cases w hi targeted with ⟨-, hw⟩ | ⟨-, -, hw⟩ | ⟨-, -, hw⟩
        · exact hsame hw
        · rw [hw] at hconf ⊢
          exact keepsNumbers_of_released hconf (isManaged_releaseSlot _ index)
        · exact keepsNumbers_of_released hconf
            ((isManaged_of_face hw index).trans (isManaged_releaseSlot _ index))
    | releaseHltv call slot =>
      rcases hltv_cases w call slot with hw | ⟨_, -, -, -, -, hm, -⟩
      · exact hsame (congrArg Prod.fst hw)
      · exact keepsNumbers_of_released (confined_releaseManagedHltvSlot w call slot) hm
    | startChangeLevel env =>
      exact keepsNumbers_of_unmanaged (unmanaged_hookStartChangeLevelPre w env)
    | levelShutdown env => exact keepsNumbers_of_unmanaged (unmanaged_onLevelShutdown w env)
    | unload env removed now => exact keepsNumbers_unload w env removed now
    | _ => cases hrel

end BotHider.Model
