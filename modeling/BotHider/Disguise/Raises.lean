import BotHider.Model.SlotSpecs

/-!
# BotHider — operations that clear no `FL_FAKECLIENT`

While a population transaction is active an operation may set the flag of a controller
but not clear it (`Engine.Raises`). No controller needs to be its client's alone for this.
-/

namespace BotHider.Model

namespace Engine

variable {e e' e'' : Engine}

/-- Every controller that stays was there before, and still has `FL_FAKECLIENT` if it
had it. -/
def Raises (e e' : Engine) : Prop :=
  ∀ t k', e'.controllerAt t = some k' → k'.beingDeleted = false →
    ∃ k, e.controllerAt t = some k ∧ k.beingDeleted = false ∧
      (k.fakeClient = true → k'.fakeClient = true)

theorem Raises.refl (e : Engine) : Raises e e := fun _ k hk hlive => ⟨k, hk, hlive, id⟩

theorem Raises.trans (h : Raises e e') (h' : Raises e' e'') : Raises e e'' := by
  intro t k'' hk'' hlive''
  obtain ⟨k', hk', hlive', hkeep'⟩ := h' t k'' hk'' hlive''
  obtain ⟨k, hk, hlive, hkeep⟩ := h t k' hk' hlive'
  exact ⟨k, hk, hlive, fun hfl => hkeep' (hkeep hfl)⟩

theorem raises_of_controllerAt (h : ∀ t, e'.controllerAt t = e.controllerAt t) : Raises e e' :=
  fun t k hk hlive => ⟨k, (h t).symm.trans hk, hlive, id⟩

theorem raises_modifyClient (e : Engine) (slot : Nat) {u : Client → Client}
    (hu : ∀ c, (u c).entityIndex = c.entityIndex) : Raises e (e.modifyClient slot u) :=
  raises_of_controllerAt fun t => e.controllerAt_modifyClient slot t hu

/-- A write to a client's controller that keeps the flag, or goes to a controller that is
going away. -/
theorem raises_modifyEntity (e : Engine) {c : Client} {k : Entity}
    (hk : e.resolveController c = some k) {u : Entity → Entity}
    (hid : ∀ k, (u k).identity = k.identity)
    (hu : k.beingDeleted = true ∨ (k.fakeClient = true → (u k).fakeClient = true)) :
    Raises e (e.modifyEntity c.entityIndex u) := by
  intro t k' hk' hlive
  obtain ⟨hres, hclass⟩ := (e.resolveController_eq_some).mp hk
  have hcls : ∀ k : Entity, (u k).className = k.className := fun k =>
    (congrArg Entity.className (hid k) : _)
  have hdel : (u k).beingDeleted = k.beingDeleted := (congrArg Entity.beingDeleted (hid k) : _)
  cases hd : e.resolveClientBySlot t with
  | none =>
    unfold controllerAt at hk'
    rw [resolveClientBySlot_modifyEntity, hd] at hk'
    cases hk'
  | some d =>
    rw [e.controllerAt_modifyEntity hd (e.pos_of_resolveEntityInstance hres) hcls] at hk'
    split at hk'
    · rename_i hindex
      -- the same entity is the slot's controller
      have hdk : e.controllerAt t = some k := by
        unfold controllerAt
        rw [hd]
        exact (e.resolveController_eq_some).mpr ⟨hindex ▸ hres, hclass⟩
      rw [hdk] at hk'
      obtain rfl := Option.some.inj hk'
      rw [hdel] at hlive
      refine ⟨k, hdk, hlive, hu.resolve_left ?_⟩
      rw [hlive]
      exact Bool.false_ne_true
    · exact ⟨k', hk', hlive, id⟩

/-- Setting the flag clears it nowhere, nor does clearing that of a controller that is
going away. -/
theorem raises_setControllerFakeClientFlag (e : Engine) (slot : Nat) {b : Bool}
    (h : b = true ∨ ∀ k, e.controllerAt slot = some k → k.beingDeleted = true) :
    Raises e (e.setControllerFakeClientFlag slot b) := by
  unfold setControllerFakeClientFlag
  split
  · exact .refl e
  · rename_i c hc
    split
    · exact .refl e
    · rename_i k hk
      refine raises_modifyEntity e hk (Entity.identity_withFakeClient b) ?_
      rcases h with rfl | h
      · exact Or.inr fun _ => Entity.fakeClient_withFakeClient true k
      · refine Or.inl (h k ?_)
        unfold controllerAt
        rw [hc]
        exact hk

theorem raises_setEngineName (e : Engine) (call : SetNameCall) (slot : Nat) (name : Bytes) :
    Raises e (e.setEngineName call slot name).1 :=
  raises_of_controllerAt fun t => controller_setEngineName e call slot name t

end Engine

open Engine World

variable {m : FakeClientManager} {w : World} {slot : Slot}

/-! ## Releases -/

theorem raises_restoreClient (e : Engine) (s : Slot) : Raises e (restoreClient e s) :=
  ((raises_modifyClient e s Client.entityIndex_setFakePlayer).trans
    (raises_setControllerFakeClientFlag _ s (Or.inl rfl))).trans
    (raises_modifyClient _ s (Client.entityIndex_writeSteamId 0))

theorem raises_releaseManagedHltvSlot (w : World) (call : SetNameCall) (slot : Slot) :
    Raises w.engine (w.releaseManagedHltvSlot call slot).1.engine := by
  have hclear : Raises w.engine (w.writeSteamId slot 0).engine :=
    raises_modifyClient _ slot (Client.entityIndex_writeSteamId 0)
  unfold releaseManagedHltvSlot
  split
  · exact .refl _
  · split
    · exact .refl _
    · dsimp only
      split
      · exact hclear
      · exact hclear.trans (raises_setEngineName _ call _ _)

theorem raises_drainPendingControllerRemovals (w : World) :
    Raises w.engine w.drainPendingControllerRemovals.engine := fun t k hk hlive =>
  ⟨k, (marks_drainPendingControllerRemovals w).live t k hk hlive, hlive, id⟩

/-! ## Adoption and server entry in a transaction -/

theorem raises_disguiseClient (w : World) (slot : Slot) {b : Bool}
    (h : b = true ∨ ∀ k, w.engine.controllerAt slot = some k → k.beingDeleted = true) :
    Raises w.engine (w.disguiseClient slot b).engine := by
  refine (raises_modifyClient _ slot Client.entityIndex_clearFakePlayer).trans
    (raises_setControllerFakeClientFlag _ slot (h.imp_right fun h k hk => h k ?_))
  rwa [controllerAt_modifyClient _ _ _ Client.entityIndex_clearFakePlayer] at hk

theorem raises_writeSteamId (w : World) (slot : Slot) (sid : UInt64) :
    Raises w.engine (w.writeSteamId slot sid).engine :=
  raises_modifyClient _ slot (Client.entityIndex_writeSteamId sid)

theorem raises_adoptEntry (hactive : w.populationTransactionActive = true) (slot : Slot)
    (name : Option Bytes) (now : UInt64) (pick : Nat) (entry : BotEntry) :
    Raises w.engine (w.adoptEntry slot name now pick entry).engine := by
  have hbound : ∀ a, Raises w.engine (((w.adoptSlot slot a now).bindSlot slot pick
      name).writeSteamId slot entry.steamId64).engine := fun _ =>
    raises_modifyClient _ slot (Client.entityIndex_writeSteamId _)
  unfold adoptEntry
  dsimp only
  split
  · exact (hbound _).trans (raises_disguiseClient _ slot (Or.inl hactive))
  · exact hbound _

theorem raises_reapplyIdentity (hactive : w.populationTransactionActive = true)
    (call : SetNameCall) (slot : Slot) (name : Option Bytes) :
    Raises w.engine (w.reapplyIdentity call slot name).engine := by
  have hdisguised : Raises w.engine (if w.isDisguiseEnabled then
      w.disguiseClient slot w.populationTransactionActive else w).engine := by
    split
    · exact raises_disguiseClient w slot (Or.inl hactive)
    · exact .refl _
  have hname : ∀ (v : World) (visible : Bytes), Raises v.engine
      (if visible = [] then v else (v.applyClientName call slot visible).1).engine := by
    intro v visible
    split
    · exact .refl _
    · exact raises_setEngineName _ call slot visible
  exact (hdisguised.trans (raises_writeSteamId _ slot _)).trans (hname _ _)

/-! ## Snapshots -/

/-- Every managed slot's controller that stays has `FL_FAKECLIENT`. -/
def Engine.Bots (m : FakeClientManager) (e : Engine) : Prop :=
  ∀ (s : Slot) k, m.isManaged s = true → e.controllerAt s = some k → k.beingDeleted = false →
    k.fakeClient = true

theorem Engine.Raises.bots {m' : FakeClientManager} {e e' : Engine} (h : Raises e e')
    (hb : e.Bots m) (hm : ∀ s, m'.isManaged s = true → m.isManaged s = true) : e'.Bots m' := by
  intro s k' hs hk' hlive'
  obtain ⟨k, hk, hlive, hkeep⟩ := h s k' hk' hlive'
  exact hkeep (hb s k (hm s hs) hk hlive)

theorem raises_captureSlot (s : Engine × ScopedBotIdentityRestore) (slot : Slot) :
    Raises s.1 (captureSlot m s slot).1 := by
  unfold captureSlot
  split
  · exact .refl _
  · split
    · exact .refl _
    · rename_i c hc
      have hset : Raises s.1 (s.1.modifyClient slot Client.setFakePlayer) :=
        raises_modifyClient _ slot Client.entityIndex_setFakePlayer
      dsimp only
      split
      · exact hset
      · rename_i k hk
        split
        · exact hset
        · exact hset.trans (raises_modifyEntity (k := k) _ hk
            (Entity.identity_withFakeClient true)
            (Or.inr fun _ => Entity.fakeClient_withFakeClient true k))

/-- The body at a managed slot raises the flag of its controller. -/
theorem fakeClient_captureSlot {s : Engine × ScopedBotIdentityRestore}
    (hm : m.isManaged slot = true) {k : Entity}
    (hk : (captureSlot m s slot).1.controllerAt slot = some k) (hlive : k.beingDeleted = false) :
    k.fakeClient = true := by
  unfold captureSlot at hk
  rw [hm] at hk
  simp only [Bool.not_true, Bool.false_eq_true, if_false] at hk
  split at hk
  · rename_i hc
    unfold controllerAt at hk
    rw [hc] at hk
    cases hk
  · rename_i c hc
    have hat : s.1.controllerAt slot = s.1.resolveController c := by
      unfold controllerAt
      rw [hc]
      rfl
    have hset : (s.1.modifyClient slot Client.setFakePlayer).controllerAt slot =
        s.1.resolveController c :=
      (controllerAt_modifyClient _ _ _ Client.entityIndex_setFakePlayer).trans hat
    have hc' : (s.1.modifyClient slot Client.setFakePlayer).resolveClientBySlot slot =
        some c.setFakePlayer := by
      rw [resolveClientBySlot_modifyClient_self, hc]
      rfl
    rw [resolveController_modifyClient] at hk
    split at hk
    · rename_i hnone
      rw [hset, hnone] at hk
      cases hk
    · rename_i k₀ hk₀
      split at hk
      · rename_i hdel
        rw [hset, hk₀] at hk
        rw [Option.some.inj hk, hlive] at hdel
        cases hdel
      · have hpos := s.1.pos_of_resolveEntityInstance ((s.1.resolveController_eq_some).mp hk₀).1
        rw [controllerAt_modifyEntity (f := Entity.withFakeClient true) _ hc' hpos fun _ => rfl,
          if_pos (Client.entityIndex_setFakePlayer c)] at hk
        obtain ⟨k₁, -, rfl⟩ := Option.map_eq_some_iff.mp hk
        exact Entity.fakeClient_withFakeClient true k₁

/-- After a capture every managed slot has the flag. -/
theorem bots_capture (m : FakeClientManager) (e : Engine) : (capture m e).1.Bots m := by
  intro t k hm
  refine Sweep.foldl_established (f := captureSlot m)
    (P := fun s : Engine × ScopedBotIdentityRestore => ∀ k, s.1.controllerAt t = some k →
      k.beingDeleted = false → k.fakeClient = true) (mem_allSlots t)
    (fun s k hk hlive => fakeClient_captureSlot hm hk hlive) (fun s slot h k' hk' hlive' => ?_)
    (e, fun _ => {}) k
  obtain ⟨k, hk, hlive, hkeep⟩ := raises_captureSlot s slot t k' hk' hlive'
  exact hkeep (h k hk hlive)

/-- A snapshot notes the flag of a slot that does not have it only. -/
theorem unmarked_captureSlot {s : Engine × ScopedBotIdentityRestore} (hb : s.1.Bots m)
    (h : ∀ t, (s.2 t).controllerFlagsMask.getLsbD 8 = false) (slot t : Slot) :
    ((captureSlot m s slot).2 t).controllerFlagsMask.getLsbD 8 = false := by
  unfold captureSlot
  split
  · exact h t
  · rename_i hm
    simp only [Bool.not_eq_eq_eq_not, Bool.not_true, Bool.not_eq_false] at hm
    split
    · exact h t
    · rename_i c hc
      have hupdate : ∀ snapshot : BotIdentitySnapshot,
          snapshot.controllerFlagsMask.getLsbD 8 = false →
          (Function.update s.2 slot snapshot t).controllerFlagsMask.getLsbD 8 = false := by
        intro snapshot hs
        rcases eq_or_ne t slot with rfl | ht
        · rwa [Function.update_self]
        · rw [Function.update_of_ne ht]
          exact h t
      dsimp only
      split
      · exact hupdate _ (by simp [BotIdentitySnapshot.ofClient])
      · rename_i k hk
        split
        · exact hupdate _ (by simp [BotIdentitySnapshot.ofClient])
        · rename_i hlive
          have hat : s.1.controllerAt slot = some k := by
            unfold controllerAt
            rw [hc]
            exact hk
          have hfl : k.flags.getLsbD 8 = true := hb slot k hm hat (by simpa using hlive)
          refine hupdate _ (Bool.eq_false_iff.mpr fun hmask => ?_)
          refine Mask.getLsbD_changed.mp hmask (hfl.trans ?_)
          exact (Entity.fakeClient_withFakeClient true k).symm

/-- A capture of slots that all have the flag notes it of none. -/
theorem unmarked_capture {e : Engine} (h : e.Bots m) (t : Slot) :
    ((capture m e).2 t).controllerFlagsMask.getLsbD 8 = false := by
  refine (Sweep.foldl_invariant (f := captureSlot m)
    (P := fun s : Engine × ScopedBotIdentityRestore =>
      s.1.Bots m ∧ ∀ t, (s.2 t).controllerFlagsMask.getLsbD 8 = false) (l := allSlots)
    ⟨h, fun _ => by simp⟩ fun s slot _ hs => ?_).2 t
  exact ⟨(raises_captureSlot s slot).bots hs.1 fun _ hm => hm, unmarked_captureSlot hs.1 hs.2 slot⟩

/-- Restoring snapshots that note the flag of no slot. -/
theorem raises_restore (m : FakeClientManager) {snapshots : ScopedBotIdentityRestore}
    (h : ∀ s, (snapshots s).controllerFlagsMask.getLsbD 8 = false) (e : Engine) :
    Raises e (restore m snapshots e) := by
  refine Sweep.foldl_rel (R := Raises) .refl (fun _ _ _ => .trans) (fun e slot => ?_) allSlots e
  unfold restoreSlot
  dsimp only
  split
  · exact .refl _
  · split
    · exact .refl _
    · rename_i c hc
      split
      · exact .refl _
      · have hmerge : Raises e (e.modifyClient slot (snapshots slot).mergeClient) :=
          raises_modifyClient (u := (snapshots slot).mergeClient) _ slot fun _ => rfl
        split
        · exact hmerge
        · rename_i k hk
          split
          · exact hmerge
          · refine hmerge.trans (raises_modifyEntity (k := k) _ hk (identity_mergeController _)
              (Or.inr fun hfl => ?_))
            unfold Entity.fakeClient BotIdentitySnapshot.mergeController
            rw [Mask.getLsbD_merge_of_unmasked (by omega) (h slot)]
            exact hfl

end BotHider.Model
