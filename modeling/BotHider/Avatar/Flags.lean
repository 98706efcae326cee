import BotHider.Avatar.Pass
import BotHider.Avatar.Stirs
import BotHider.Image.Png

/-!
# BotHider — `HasBotAvatar` does not lie

What is published of a slot's avatar is a copy of what a pass did, and outlives changes
of the SteamID; the table is written by the other slots' rounds too.

* `Honest` — what is published of a slot is under its SteamID in the table seen last, and
  nobody else cleans it up. Every event keeps this (`honest_step`).
* `hasBotAvatar_honest` — so an avatar `HasBotAvatar` reports is in the table.
-/

namespace BotHider.Model

open World AvatarOverrides Reconcile

/-! ## The invariant -/

/-- What is published of the slots is true of the table seen last. -/
structure World.Honest (w : World) : Prop where
  exclusive : ∀ addr, w.avatar.lastAvatarTable = some addr → (w.avatar.view addr).Exclusive
  flag : ∀ s, (w.manager.slots s).snapshot.avatarApplied = true →
    ∃ addr, w.avatar.lastAvatarTable = some addr ∧
      (w.avatar.states s).steamId = (w.manager.slots s).snapshot.avatarSteamId ∧
      (w.avatar.view addr).Settled s (some (w.manager.slots s).snapshot.avatarSteamId)
        (w.manager.getAvatarRequest s).data

/-- The same in the middle of a pass: what is published of a slot whose round is still to
come may be out of date, but only if its record is. -/
structure SweepHonest (addr : Nat) (s : FakeClientManager × AvatarOverrides) : Prop where
  exclusive : (s.2.view addr).Exclusive
  flag : ∀ t, (s.1.slots t).snapshot.avatarApplied = true →
    (s.2.states t).steamId = (s.1.slots t).snapshot.avatarSteamId ∧
      (s.1.slots t).snapshot.avatarSteamId ≠ 0 ∧
      ((s.2.states t).steamId = s.1.avatarTarget t → Provided addr t s)

variable {w w' : World}

/-! ## Passes -/

theorem SweepHonest.processSlot {addr : Nat} {s : FakeClientManager × AvatarOverrides}
    (h : SweepHonest addr s) (hd : DistinctTargets s.1) (calls : Slot → TableCalls) (now : Nat)
    (slot : Slot) : SweepHonest addr (processSlot calls now addr s slot) := by
  have hpub := published_processSlot calls now addr s slot
  rcases processSlot_cases calls now addr s slot with ⟨hs, -⟩ | ⟨hw, -⟩
  · rwa [hs]
  · refine ⟨h.exclusive.moves hw.moves, fun t ht => ?_⟩
    rcases eq_or_ne t slot with rfl | hts
    · -- the slot's own round published it
      obtain ⟨hsid, h0, hproc⟩ := hw.flag ht
      refine ⟨hw.steamId.trans hsid.symm, hsid ▸ h0, fun _ => ?_⟩
      unfold Provided
      rw [hpub.avatarTarget, hpub.getAvatarRequest]
      exact hw.settled hproc
    · have hforget := congrArg AvatarRuntimeState.steamId (hw.forget t hts)
      rw [hw.slots t hts] at ht ⊢
      obtain ⟨hsid, h0, hprov⟩ := h.flag t ht
      refine ⟨hforget.trans hsid, h0, fun hup => ?_⟩
      rw [hpub.avatarTarget] at hup
      exact (hprov (hforget.symm.trans hup)).worked hw hpub h.exclusive hd hts

/-- A pass starts on a table nothing is published of, or where the last one left off. -/
theorem World.Honest.noteTable (h : w.Honest) (addr : Nat) :
    SweepHonest addr (w.avatar.noteTable w.manager addr) := by
  unfold AvatarOverrides.noteTable
  split
  · rename_i hlast
    refine ⟨h.exclusive addr hlast, fun t ht => ?_⟩
    obtain ⟨addr', hlast', hsid, hsettled⟩ := h.flag t ht
    obtain rfl := Option.some.inj (hlast.symm.trans hlast')
    have h0 := (someSteamId_eq_some hsettled.owns).2
    refine ⟨hsid, h0, fun hup => ?_⟩
    unfold Provided
    rwa [← hup, hsid, someSteamId_of_ne h0]
  · refine ⟨fun s t k hs => ?_, fun t ht => ?_⟩
    · cases hs
    · rw [avatarApplied_withdrawAll] at ht
      cases ht

theorem World.Honest.processOverrides (h : w.Honest) (hg : w.registry.Good)
    (env : PassEnv) : (w.processOverrides env).Honest := by
  rcases processOverrides_cases w env with ⟨addr, -, -, hw⟩ | ⟨-, hw⟩
  · have hd := distinctTargets_of_good hg
    obtain ⟨hs, -, hlast⟩ := sweep_invariant
      (P := fun s => SweepHonest addr s ∧ DistinctTargets s.1 ∧ s.2.lastAvatarTable = some addr)
      w env addr ⟨h.noteTable addr, (published_noteTable w.avatar w.manager addr).distinct hd,
        last_noteTable w.avatar w.manager addr⟩
      fun s slot ⟨hs, hds, hlast⟩ => ⟨hs.processSlot hds env.calls env.now slot,
        (published_processSlot env.calls env.now addr s slot).distinct hds,
        (last_processSlot env.calls env.now addr s slot).trans hlast⟩
    have hup := upToDate_sweep w env addr
    rw [hw]
    generalize w.sweep env addr = s at hs hlast hup ⊢
    refine ⟨fun addr' h' => ?_, fun t ht => ⟨addr, hlast, ?_⟩⟩
    · obtain rfl := Option.some.inj (hlast.symm.trans h')
      exact hs.exclusive
    · obtain ⟨hsid, h0, hprov⟩ := hs.flag t ht
      refine ⟨hsid, ?_⟩
      have hsettled := hprov (hup t).2
      unfold Provided at hsettled
      rwa [← (hup t).2, hsid, someSteamId_of_ne h0] at hsettled
  · rwa [hw]

theorem honest_resetRuntime (w : World) : w.resetRuntime.Honest := by
  refine ⟨fun addr h => ?_, fun s h => ?_⟩
  · cases h
  · rw [show w.resetRuntime.manager = withdrawAll w.manager from rfl,
      avatarApplied_withdrawAll] at h
    cases h

/-! ## Between passes -/

/-- A replaced request is not published. -/
theorem World.Honest.of_stirs (h : w.Honest) (hs : w.Stirs w') : w'.Honest := by
  refine ⟨by rw [hs.avatar]; exact h.exclusive, fun s hflag => ?_⟩
  rcases hs.slots s with ⟨hreq, happl, hsid⟩ | ⟨-, hnone⟩
  · obtain ⟨addr, hlast, hstate, hsettled⟩ := h.flag s (happl.symm.trans hflag)
    rw [hs.avatar, show (w'.manager.slots s).snapshot.avatarSteamId =
      (w.manager.slots s).snapshot.avatarSteamId from hsid,
      show w'.manager.getAvatarRequest s = w.manager.getAvatarRequest s from hreq]
    exact ⟨addr, hlast, hstate, hsettled⟩
  · rw [show (w'.manager.slots s).snapshot.avatarApplied = false from hnone] at hflag
    cases hflag

theorem World.Honest.of_hop (h : w.Honest) (hop : w.Hop w') (havatar : w'.avatar = w.avatar) :
    w'.Honest :=
  h.of_stirs ⟨havatar, hop.stirred⟩

/-- What the engine does to other tables changes nothing here. -/
theorem World.Honest.of_tables (h : w.Honest) {tables : Nat → StringTable}
    (hkeep : ∀ addr, w.avatar.lastAvatarTable = some addr → tables addr = w.avatar.tables addr) :
    World.Honest { w with avatar := { w.avatar with tables := tables } } := by
  have hview : ∀ addr, w.avatar.lastAvatarTable = some addr →
      AvatarOverrides.view { w.avatar with tables := tables } addr = w.avatar.view addr := by
    intro addr hlast
    unfold AvatarOverrides.view
    dsimp only
    rw [hkeep addr hlast]
  refine ⟨fun addr hlast => ?_, fun s hflag => ?_⟩
  · rw [hview addr hlast]
    exact h.exclusive addr hlast
  · obtain ⟨addr, hlast, hstate, hsettled⟩ := h.flag s hflag
    refine ⟨addr, hlast, hstate, ?_⟩
    rwa [hview addr hlast]

/-! ## Steps -/

/-- Nobody but the plugin writes the table it saw last. -/
def World.KeepsTable (w : World) : Event → Prop
  | .tables tables =>
    ∀ addr, w.avatar.lastAvatarTable = some addr → tables addr = w.avatar.tables addr
  | _ => True

/-- **Step lemma.** Every event keeps the flags true. -/
theorem honest_step (h : w.Honest) (hs : w.Sane) {e : Event} (he : w.KeepsTable e) :
    (w.step e).Honest := by
  cases hp : e.passes with
  | false => exact h.of_stirs (stirs_step hs hp)
  | true =>
    cases e with
    | tables tables => exact h.of_tables he
    | processOverrides env => exact h.processOverrides hs.good env
    | startChangeLevel env =>
      have hgood := hs.good.path (leases_releaseAll w).path
      have hrestored : (w.withEngine (restoreManagedClients w.manager w.engine)).Honest :=
        h.of_hop (.of_eq rfl) rfl
      exact (hrestored.of_hop (leases_releaseAll _).hop rfl).processOverrides hgood env
    | levelInit gate =>
      exact (honest_resetRuntime w).of_hop (.of_eq (registry_onLevelInit w gate))
        (avatar_of_hull (hull_onLevelInit w gate))
    | levelShutdown env =>
      exact (honest_resetRuntime (w.releaseAll.processOverrides env)).of_hop (.of_eq rfl) rfl
    | _ => cases hp

/-! ## Runs -/

theorem honest_loading (env : LoadEnv) : (World.loading env).Honest := by
  have hlast : (World.loading env).avatar.lastAvatarTable = none := by
    obtain ⟨plugin, h⟩ := loading_eq env
    rw [h]
  refine ⟨fun addr h => ?_, fun s h => ?_⟩
  · rw [hlast] at h
    cases h
  · have hempty : ((World.loading env).registry.holding s).avatarApplied = false := by
      rw [registry_loading]
    rw [show ((World.loading env).manager.slots s).snapshot.avatarApplied = false from hempty] at h
    cases h

theorem honest_adoptExistingBot (h : w.Honest) (hg : w.registry.Good) (call : SetNameCall)
    (now : UInt64) {slot : Slot} (hm : w.manager.isManaged slot = false) :
    (w.adoptExistingBot call now slot).Honest := by
  unfold adoptExistingBot
  split
  · exact h
  · rename_i client _
    split
    · exact h
    · split
      · exact h
      · have hadopt := h.of_hop (leases_adoptClient hg hm client.name now).hop
          (confined_adoptClient w slot client.name now).avatar
        dsimp only
        split
        · exact hadopt.of_hop (leases_applyClientName _ call slot _).hop rfl
        · exact hadopt

theorem honest_load (env : LoadEnv) : (World.load env).Honest := by
  refine (load_invariant (I := fun w => w.Honest ∧ w.registry.Good) env
    ⟨honest_loading env, good_loading env⟩ (fun w s hw hm => ⟨?_, ?_⟩) fun w hw => ?_).1
  · exact honest_adoptExistingBot hw.1 hw.2 _ _ hm
  · exact hw.2.path (path_adoptExistingBot hw.2 _ _ hm)
  · exact ⟨hw.1.of_hop (.of_eq rfl) rfl, hw.2⟩

/-- **Run lemma.** The flags are true after every run. -/
theorem honest_run (env : LoadEnv) (es : List Event)
    (h : Runs.Admits World.step World.KeepsTable (World.load env) es) :
    (World.run env es).Honest :=
  (Runs.exec_invariant (I := fun w => w.Honest ∧ w.Sane) ⟨honest_load env, sane_load env⟩
    (fun _ e hw he => ⟨honest_step hw.1 hw.2 he, hw.2.step e⟩) h).1

/-- The slot's current request is in the table seen last, under its current SteamID. -/
def World.Shown (w : World) (s : Slot) : Prop :=
  ∃ addr, w.avatar.lastAvatarTable = some addr ∧
    (w.avatar.tables addr).data (formatAvatarSteamId (w.manager.getSyntheticSid s)) =
      (w.manager.getAvatarRequest s).data

theorem World.Honest.shown (h : w.Honest) {s : Slot}
    (happl : (w.manager.slots s).snapshot.avatarApplied = true)
    (hsid : (w.manager.slots s).snapshot.avatarSteamId = w.manager.getSyntheticSid s) :
    w.Shown s := by
  obtain ⟨addr, hlast, -, hsettled⟩ := h.flag s happl
  have h0 := (someSteamId_eq_some hsettled.owns).2
  refine ⟨addr, hlast, ?_⟩
  rw [← hsid, ← hsettled.store _ rfl]
  exact (if_neg h0).symm

/-- What `HasBotAvatar` looks at. -/
theorem hasBotAvatar_eq_true {slot : Int} (h : w.hasBotAvatar slot = true) :
    ∃ s, slotOf slot = some s ∧ w.manager.isManaged s = true ∧
      (w.manager.slots s).snapshot.avatarApplied = true ∧
      (w.manager.slots s).snapshot.avatarSteamId = w.manager.getSyntheticSid s := by
  unfold hasBotAvatar readSlot bhGetSlot validSlot at h
  split at h
  · cases h
  · rename_i snapshot hread
    split at hread
    · cases hread
    · obtain ⟨s, hs, rfl⟩ := Option.map_eq_some_iff.mp hread
      split at hs
      · simp only [Bool.and_eq_true, beq_iff_eq] at h
        exact ⟨s, hs, h⟩
      · cases hs

/-- **`HasBotAvatar` does not lie.** In every run, whatever the calls of its passes return
and whatever tables they find, an avatar it reports is in the table seen last, with the
bytes of the slot's current request under the slot's current SteamID. -/
theorem hasBotAvatar_honest (env : LoadEnv) (es : List Event)
    (h : Runs.Admits World.step World.KeepsTable (World.load env) es) :
    (∀ slot, (World.run env es).hasBotAvatar slot = true →
      ∃ s, slotOf slot = some s ∧ (World.run env es).Shown s) ∧
    ∀ s, (World.run env es).manager.isManaged s = true →
      ((World.run env es).manager.slots s).snapshot.avatarApplied = true →
      ((World.run env es).manager.slots s).snapshot.avatarSteamId =
        (World.run env es).manager.getSyntheticSid s →
      (World.run env es).Shown s := by
  have hhonest := honest_run env es h
  refine ⟨fun slot hslot => ?_, fun s _ happl hsid => hhonest.shown happl hsid⟩
  obtain ⟨s, hs, -, happl, hsid⟩ := hasBotAvatar_eq_true hslot
  exact ⟨s, hs, hhonest.shown happl hsid⟩

/-- A bot is given an avatar and a pass over table `7` shows it. -/
def showsAvatar : List Event :=
  [botConnects 0, .loadImpl true, .bhSetAvatar 0 6 (some tinyPng) 58 true,
    .processOverrides { found := some 7, calls := fun _ => {}, now := 0 }]

theorem hasBotAvatar_honest_shown : ∃ s, slotOf 0 = some s ∧
    (World.run smallServer showsAvatar).Shown s :=
  (hasBotAvatar_honest smallServer showsAvatar ⟨trivial, trivial, trivial, trivial, trivial⟩).1 0
    (by decide +kernel)

end BotHider.Model
