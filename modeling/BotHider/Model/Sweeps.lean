import BotHider.Model.Runtime

/-!
# BotHider — what the engine sweeps do to one slot

Each sweep of `Model/Runtime.lean` works on one slot at a time
(`Engine.Only`). So after the whole sweep a slot's client is what the body at
that slot made of it, and its controller too when no two clients share one
(`Engine.SeparateControllers`).
-/

namespace BotHider.Model

open Engine

variable {m : FakeClientManager} {e : Engine}

/-! ## Sweeps confined to their slots -/

section Confined

variable {body : Engine → Slot → Engine}

/-- A slot's client after a sweep is what the body at that slot makes of it. -/
theorem sweep_client (h : ∀ e s, Only s.val e (body e s)) (e : Engine) (t : Slot) :
    ∃ e', e'.resolveClientBySlot t = e.resolveClientBySlot t ∧
      (allSlots.foldl body e).resolveClientBySlot t = (body e' t).resolveClientBySlot t := by
  obtain ⟨e', -, hview, hres⟩ := Sweep.foldl_view (f := body) (p := fun _ => True)
    (v := fun e (t : Slot) => e.resolveClientBySlot t) (fun _ _ _ => trivial)
    (fun e s t _ hst => (h e s).client t fun heq => hst (Fin.ext heq).symm)
    allSlots_nodup (mem_allSlots t) (s := e) trivial
  exact ⟨e', hview, hres⟩

/-- With controllers apart, the same goes for its controller. -/
theorem sweep_view (h : ∀ e s, Only s.val e (body e s)) (hsep : e.SeparateControllers) (t : Slot) :
    ∃ e', e'.resolveClientBySlot t = e.resolveClientBySlot t ∧
      e'.controllerAt t = e.controllerAt t ∧
      (allSlots.foldl body e).resolveClientBySlot t = (body e' t).resolveClientBySlot t ∧
      (allSlots.foldl body e).controllerAt t = (body e' t).controllerAt t := by
  obtain ⟨e', -, hview, hres⟩ := Sweep.foldl_view (f := body)
    (p := fun e => e.SeparateControllers)
    (v := fun e (t : Slot) => (e.resolveClientBySlot t, e.controllerAt t))
    (fun e s hsep => (h e s).agree.separateControllers hsep)
    (fun e s t hsep hst => Prod.ext ((h e s).client t fun heq => hst (Fin.ext heq).symm)
      ((h e s).controller hsep t fun heq => hst (Fin.ext heq).symm))
    allSlots_nodup (mem_allSlots t) (s := e) hsep
  exact ⟨e', congrArg Prod.fst hview, congrArg Prod.snd hview, congrArg Prod.fst hres,
    congrArg Prod.snd hres⟩

end Confined

/-! ## Controllers of one slot -/

/-- No other managed slot's client has the controller of this slot's client. -/
def Engine.Unshared (m : FakeClientManager) (e : Engine) (t : Slot) : Prop :=
  ∀ (s : Slot) c d, s ≠ t → m.isManaged s = true → e.resolveClientBySlot s = some c →
    e.resolveClientBySlot t = some d → (e.resolveController d).isSome = true →
      d.entityIndex ≠ c.entityIndex

theorem Engine.SeparateControllers.unshared (h : e.SeparateControllers) (m : FakeClientManager)
    (t : Slot) : e.Unshared m t := fun s c d hst _ hc hd hk heq =>
  h t s d c (fun hv => hst (Fin.ext hv).symm) hd hc hk heq.symm

theorem Engine.Unshared.of_agree {e' : Engine} {t : Slot} (hu : e.Unshared m t)
    (h : Agree Client.entityIndex e e') : e'.Unshared m t := by
  intro s c' d' hst hm hc' hd' hk
  obtain ⟨c, hc, hcid⟩ := h.exists_client hc'
  obtain ⟨d, hd, hdid⟩ := h.exists_client hd'
  rw [hcid, hdid]
  refine hu s c d hst hm hc hd ?_
  rw [← Option.isSome_map (f := Entity.identity), ← h.resolveController hdid, Option.isSome_map, hk]

/-- A write to the controller of a managed slot misses a slot that does not share it. -/
theorem controllerAt_modifyEntity_of_unshared {s t : Slot} {c : Client} {k : Entity}
    (hu : e.Unshared m t) (hst : s ≠ t) (hm : m.isManaged s = true)
    (hc : e.resolveClientBySlot s = some c) (hk : e.resolveController c = some k)
    {u : Entity → Entity} (hid : ∀ k, (u k).identity = k.identity) :
    (e.modifyEntity c.entityIndex u).controllerAt t = e.controllerAt t :=
  e.controllerAt_modifyEntity_of_missed hk (fun d hd hkd => hu s c d hst hm hc hd hkd) hid

/-! ## Applying a mode -/

/-- What `ApplyManagedDisguise` makes of the client of a managed slot. -/
def disguisedClient (disguised : Bool) (steamId : UInt64) (c : Client) : Client :=
  let c := if disguised then c.clearFakePlayer else c.setFakePlayer
  if steamId ≠ 0 then c.writeSteamId steamId else c

theorem only_applyManagedDisguiseSlot (disguised : Bool) (e : Engine) (s : Slot) :
    Only s.val e (applyManagedDisguiseSlot m disguised e s) := by
  unfold applyManagedDisguiseSlot
  split
  · exact .refl _ e
  · split
    · exact .refl _ e
    · have h1 : Only s.val e (e.modifyClient s
          (if disguised then Client.clearFakePlayer else Client.setFakePlayer)) :=
        only_modifyClient e s (by cases disguised <;> exact fun _ => rfl)
      have h2 := h1.trans (only_setControllerFakeClientFlag _ s (!disguised))
      dsimp only
      split
      · exact h2.trans (only_modifyClient _ s (Client.entityIndex_writeSteamId _))
      · exact h2

theorem resolveClientBySlot_applyManagedDisguiseSlot (disguised : Bool) {s : Slot} {c : Client}
    (hm : m.isManaged s = true) (hc : e.resolveClientBySlot s = some c) :
    (applyManagedDisguiseSlot m disguised e s).resolveClientBySlot s =
      some (disguisedClient disguised (m.getSyntheticSid s) c) := by
  simp only [applyManagedDisguiseSlot, hm, Bool.not_true, Bool.false_eq_true, if_false, hc]
  split
  · rename_i hs
    rw [resolveClientBySlot_modifyClient_self, resolveClientBySlot_setControllerFakeClientFlag,
      resolveClientBySlot_modifyClient_self, hc]
    cases disguised <;> simp [disguisedClient, hs]
  · rename_i hs
    rw [resolveClientBySlot_setControllerFakeClientFlag, resolveClientBySlot_modifyClient_self, hc]
    cases disguised <;> simp [disguisedClient, hs]

theorem controllerAt_applyManagedDisguiseSlot (disguised : Bool) {s : Slot} {c : Client}
    (hm : m.isManaged s = true) (hc : e.resolveClientBySlot s = some c) :
    (applyManagedDisguiseSlot m disguised e s).controllerAt s =
      (e.controllerAt s).map (Entity.withFakeClient (!disguised)) := by
  have hkeep : ∀ c : Client, ((if disguised then Client.clearFakePlayer else Client.setFakePlayer)
      c).entityIndex = c.entityIndex := by cases disguised <;> exact fun _ => rfl
  simp only [applyManagedDisguiseSlot, hm, Bool.not_true, Bool.false_eq_true, if_false, hc]
  split
  · rw [controllerAt_modifyClient _ _ _ (Client.entityIndex_writeSteamId _),
      controllerAt_setControllerFakeClientFlag_self, controllerAt_modifyClient _ _ _ hkeep]
  · rw [controllerAt_setControllerFakeClientFlag_self, controllerAt_modifyClient _ _ _ hkeep]

/-- After `ApplyManagedDisguise` the client of a managed slot has the mode's flags and
the slot's SteamID. -/
theorem client_applyManagedDisguise (disguised : Bool) {t : Slot} {c : Client}
    (hm : m.isManaged t = true) (hc : e.resolveClientBySlot t = some c) :
    (applyManagedDisguise m disguised e).resolveClientBySlot t =
      some (disguisedClient disguised (m.getSyntheticSid t) c) := by
  obtain ⟨e', hview, hres⟩ := sweep_client (only_applyManagedDisguiseSlot (m := m) disguised) e t
  exact hres.trans
    (resolveClientBySlot_applyManagedDisguiseSlot disguised hm (hview.trans hc))

theorem controllerAt_applyManagedDisguise (disguised : Bool) (hsep : e.SeparateControllers)
    {t : Slot} {c : Client} (hm : m.isManaged t = true) (hc : e.resolveClientBySlot t = some c) :
    (applyManagedDisguise m disguised e).controllerAt t =
      (e.controllerAt t).map (Entity.withFakeClient (!disguised)) := by
  obtain ⟨e', hview, hctl, -, hres⟩ :=
    sweep_view (only_applyManagedDisguiseSlot (m := m) disguised) hsep t
  exact hres.trans
    ((controllerAt_applyManagedDisguiseSlot disguised hm (hview.trans hc)).trans (by rw [hctl]))

/-- The client of a slot that is not managed, or does not resolve, is untouched. -/
theorem client_applyManagedDisguise_of_not (disguised : Bool) {t : Slot}
    (hm : m.isManaged t = false ∨ e.resolveClientBySlot t = none) :
    (applyManagedDisguise m disguised e).resolveClientBySlot t = e.resolveClientBySlot t := by
  obtain ⟨e', hview, hres⟩ := sweep_client (only_applyManagedDisguiseSlot (m := m) disguised) e t
  rw [applyManagedDisguise, hres, ← hview]
  unfold applyManagedDisguiseSlot
  rcases hm with hm | hm
  · simp [hm]
  · rw [hview, hm]
    split
    · rw [hview, hm]
    · rw [hview, hm]

/-! ## Giving the engine its bots back -/

theorem only_restoreClient (e : Engine) (s : Slot) : Only s.val e (restoreClient e s) :=
  ((only_modifyClient e s Client.entityIndex_setFakePlayer).trans
    (only_setControllerFakeClientFlag _ s true)).trans
    (only_modifyClient _ s (Client.entityIndex_writeSteamId 0))

theorem client_restoreClient (e : Engine) (s : Slot) :
    (restoreClient e s).resolveClientBySlot s =
      (e.resolveClientBySlot s).map fun c => c.setFakePlayer.writeSteamId 0 := by
  rw [restoreClient, resolveClientBySlot_modifyClient_self,
    resolveClientBySlot_setControllerFakeClientFlag, resolveClientBySlot_modifyClient_self,
    Option.map_map]
  rfl

theorem controllerAt_restoreClient (e : Engine) (s : Slot) :
    (restoreClient e s).controllerAt s = (e.controllerAt s).map (Entity.withFakeClient true) := by
  rw [restoreClient, controllerAt_modifyClient _ _ _ (Client.entityIndex_writeSteamId 0),
    controllerAt_setControllerFakeClientFlag_self,
    controllerAt_modifyClient _ _ _ Client.entityIndex_setFakePlayer]

theorem only_restoreManagedClientSlot (e : Engine) (s : Slot) :
    Only s.val e (restoreManagedClientSlot m e s) := by
  unfold restoreManagedClientSlot
  split
  · exact .refl _ e
  · split
    · exact .refl _ e
    · exact only_restoreClient e s

theorem client_restoreManagedClients {t : Slot} (hm : m.isManaged t = true) :
    (restoreManagedClients m e).resolveClientBySlot t =
      (e.resolveClientBySlot t).map fun c => c.setFakePlayer.writeSteamId 0 := by
  obtain ⟨e', hview, hres⟩ := sweep_client (only_restoreManagedClientSlot (m := m)) e t
  rw [restoreManagedClients, hres, ← hview]
  simp only [restoreManagedClientSlot, hm, Bool.not_true, Bool.false_eq_true, if_false]
  split
  · rename_i hn
    rw [hn]
    rfl
  · rw [client_restoreClient]

theorem fakeClient_restoreManagedClientSlot (s : Slot) {t : Nat} {k' : Entity}
    (hk' : (restoreManagedClientSlot m e s).controllerAt t = some k') :
    ∃ k, e.controllerAt t = some k ∧ (k.fakeClient = true → k'.fakeClient = true) := by
  unfold restoreManagedClientSlot at hk'
  split at hk'
  · exact ⟨k', hk', id⟩
  · split at hk'
    · exact ⟨k', hk', id⟩
    · rw [restoreClient,
        controllerAt_modifyClient _ _ _ (Client.entityIndex_writeSteamId 0)] at hk'
      obtain ⟨k, hk, -, hkeep⟩ := fakeClient_setControllerFakeClientFlag_true _ _ _ hk'
      rw [controllerAt_modifyClient _ _ _ Client.entityIndex_setFakePlayer] at hk
      exact ⟨k, hk, hkeep⟩

theorem agree_restoreManagedClients (m : FakeClientManager) (e : Engine) :
    Agree Client.entityIndex e (restoreManagedClients m e) :=
  Sweep.foldl_rel (R := Agree Client.entityIndex) (Agree.refl _) (fun _ _ _ => Agree.trans)
    (fun e s => (only_restoreManagedClientSlot e s).agree) _ e

/-- After the sweep the controller of a managed slot has `FL_FAKECLIENT`, shared or not. -/
theorem fakeClient_restoreManagedClients {t : Slot} (hm : m.isManaged t = true) {k' : Entity}
    (hk' : (restoreManagedClients m e).controllerAt t = some k') : k'.fakeClient = true := by
  refine Sweep.foldl_established (f := restoreManagedClientSlot m)
    (P := fun e => ∀ k', e.controllerAt t = some k' → k'.fakeClient = true) (mem_allSlots t)
    (fun e k' hk' => ?_) (fun e s h k' hk' => ?_) e k' hk'
  · simp only [restoreManagedClientSlot, hm, Bool.not_true, Bool.false_eq_true, if_false] at hk'
    split at hk'
    · rename_i hn
      unfold controllerAt at hk'
      rw [hn] at hk'
      cases hk'
    · rw [controllerAt_restoreClient] at hk'
      obtain ⟨k, -, rfl⟩ := Option.map_eq_some_iff.mp hk'
      exact Entity.fakeClient_withFakeClient true k
  · obtain ⟨k, hk, hkeep⟩ := fakeClient_restoreManagedClientSlot s hk'
    exact hkeep (h k hk)

/-! ## Capture -/

theorem identity_mergeClient (snapshot : BotIdentitySnapshot) (c : Client) :
    (snapshot.mergeClient c).identity = c.identity := rfl

theorem identity_mergeController (snapshot : BotIdentitySnapshot) (k : Entity) :
    (snapshot.mergeController k).identity = k.identity := rfl

theorem agree_captureSlot (s : Engine × ScopedBotIdentityRestore) (slot : Slot) :
    SameButFlags s.1 (captureSlot m s slot).1 := by
  unfold captureSlot
  split
  · exact .refl _ _
  · split
    · exact .refl _ _
    · have hset : SameButFlags s.1 (s.1.modifyClient slot Client.setFakePlayer) :=
        agree_modifyClient _ _ Client.identity_setFakePlayer
      dsimp only
      split
      · exact hset
      · split
        · exact hset
        · exact hset.trans (agree_modifyEntity _ _ _ (Entity.identity_withFakeClient true))

theorem only_captureSlot (s : Engine × ScopedBotIdentityRestore) (slot : Slot) :
    Only slot.val s.1 (captureSlot m s slot).1 := by
  unfold captureSlot
  split
  · exact .refl _ _
  · split
    · exact .refl _ _
    · rename_i c hc
      have hset : Only slot.val s.1 (s.1.modifyClient slot Client.setFakePlayer) :=
        only_modifyClient _ _ Client.entityIndex_setFakePlayer
      dsimp only
      split
      · exact hset
      · rename_i k hk
        split
        · exact hset
        · refine hset.trans (only_modifyEntity (c := c.setFakePlayer) _ ?_ hk
            (Entity.identity_withFakeClient true))
          rw [resolveClientBySlot_modifyClient_self, hc]
          rfl

theorem snapshot_captureSlot_of_ne {s : Engine × ScopedBotIdentityRestore} {slot t : Slot}
    (h : slot ≠ t) : (captureSlot m s slot).2 t = s.2 t := by
  unfold captureSlot
  split
  · rfl
  · split
    · rfl
    · dsimp only
      split
      · exact Function.update_of_ne (Ne.symm h) ..
      · split <;> exact Function.update_of_ne (Ne.symm h) ..

theorem agree_capture (m : FakeClientManager) (e : Engine) : SameButFlags e (capture m e).1 :=
  Sweep.foldl_rel (f := captureSlot m)
    (R := fun s s' : Engine × ScopedBotIdentityRestore => SameButFlags s.1 s'.1)
    (fun _ => .refl _ _) (fun _ _ _ => .trans) agree_captureSlot allSlots (e, fun _ => {})

/-- A capture at another slot leaves a controller alone that the slot does not share. -/
theorem controllerAt_captureSlot_of_ne {s : Engine × ScopedBotIdentityRestore} {slot t : Slot}
    (hu : s.1.Unshared m t) (h : slot ≠ t) :
    (captureSlot m s slot).1.controllerAt t = s.1.controllerAt t := by
  have hset := controllerAt_modifyClient s.1 slot t Client.entityIndex_setFakePlayer
  unfold captureSlot
  split
  · rfl
  · rename_i hm
    split
    · rfl
    · rename_i c hc
      dsimp only
      split
      · exact hset
      · rename_i k hk
        split
        · exact hset
        · refine (controllerAt_modifyEntity_of_unshared (s := slot) (c := c.setFakePlayer)
            (hu.of_agree (agree_modifyClient _ _ Client.entityIndex_setFakePlayer)) h
            (by simpa using hm) ?_ hk (Entity.identity_withFakeClient true)).trans hset
          rw [resolveClientBySlot_modifyClient_self, hc]
          rfl

/-- A slot's client, controller and snapshot after `Capture` are what the body at that
slot makes of them, if it shares its controller with no other slot. -/
theorem capture_view {t : Slot} (hu : e.Unshared m t) :
    ∃ s : Engine × ScopedBotIdentityRestore,
      s.1.resolveClientBySlot t = e.resolveClientBySlot t ∧
      s.1.controllerAt t = e.controllerAt t ∧ s.2 t = {} ∧
      (capture m e).1.resolveClientBySlot t = (captureSlot m s t).1.resolveClientBySlot t ∧
      (capture m e).1.controllerAt t = (captureSlot m s t).1.controllerAt t ∧
      (capture m e).2 t = (captureSlot m s t).2 t := by
  obtain ⟨s, -, hview, hres⟩ := Sweep.foldl_at (f := captureSlot m) (j := t)
    (p := fun s : Engine × ScopedBotIdentityRestore => s.1.Unshared m t)
    (v := fun s => (s.1.resolveClientBySlot t, s.1.controllerAt t, s.2 t))
    (fun s slot hs => hs.of_agree (only_captureSlot s slot).agree)
    (fun s slot hs hst => by
      rw [(only_captureSlot s slot).client t fun heq => hst (Fin.ext heq).symm,
        controllerAt_captureSlot_of_ne hs hst, snapshot_captureSlot_of_ne hst])
    allSlots_nodup (mem_allSlots t) (s := (e, fun _ => {})) hu
  simp only [Prod.mk.injEq] at hview hres
  exact ⟨s, hview.1, hview.2.1, hview.2.2, hres⟩

/-- After `Capture` a managed slot with a live controller of its own looks like a bot, and
its snapshot remembers what it looked like. -/
theorem capture_of_unshared {t : Slot} (hu : e.Unshared m t) {c : Client} {k : Entity}
    (hm : m.isManaged t = true) (hc : e.resolveClientBySlot t = some c)
    (hk : e.controllerAt t = some k) (hlive : k.beingDeleted = false) :
    (capture m e).1.resolveClientBySlot t = some c.setFakePlayer ∧
      (capture m e).1.controllerAt t = some (k.withFakeClient true) ∧
      (capture m e).2 t = (BotIdentitySnapshot.ofClient c).withController k := by
  obtain ⟨s, hsc, hsk, -, h1, h2, h3⟩ := capture_view hu
  rw [hc] at hsc
  rw [hk] at hsk
  have hr : s.1.resolveController c = some k := by
    unfold controllerAt at hsk
    rw [hsc] at hsk
    exact hsk
  have hbody : captureSlot m s t =
      ((s.1.modifyClient t Client.setFakePlayer).modifyEntity c.entityIndex
          (Entity.withFakeClient true),
        Function.update s.2 t ((BotIdentitySnapshot.ofClient c).withController k)) := by
    unfold captureSlot
    rw [hm, hsc]
    simp only [Bool.not_true, Bool.false_eq_true, if_false, resolveController_modifyClient]
    rw [hr]
    simp only [hlive, Bool.false_eq_true, if_false]
  have hc' : (s.1.modifyClient t Client.setFakePlayer).resolveClientBySlot t =
      some c.setFakePlayer := by
    rw [resolveClientBySlot_modifyClient_self, hsc]
    rfl
  refine ⟨?_, ?_, ?_⟩
  · rw [h1, hbody, resolveClientBySlot_modifyEntity, hc']
  · have hpos := s.1.pos_of_resolveEntityInstance ((s.1.resolveController_eq_some).mp hr).1
    rw [h2, hbody]
    dsimp only
    rw [controllerAt_modifyEntity (f := Entity.withFakeClient true) _ hc' hpos fun _ => rfl,
      if_pos (Client.entityIndex_setFakePlayer c),
      controllerAt_modifyClient _ _ _ Client.entityIndex_setFakePlayer, hsk]
    rfl
  · rw [h3, hbody]
    exact Function.update_self ..

/-- The same where no two clients share a controller. -/
theorem capture_of_managed (hsep : e.SeparateControllers) {t : Slot} {c : Client} {k : Entity}
    (hm : m.isManaged t = true) (hc : e.resolveClientBySlot t = some c)
    (hk : e.controllerAt t = some k) (hlive : k.beingDeleted = false) :
    (capture m e).1.resolveClientBySlot t = some c.setFakePlayer ∧
      (capture m e).1.controllerAt t = some (k.withFakeClient true) ∧
      (capture m e).2 t = (BotIdentitySnapshot.ofClient c).withController k :=
  capture_of_unshared (hsep.unshared m t) hm hc hk hlive

/-- `Capture` does nothing about a slot that is not managed. -/
theorem capture_of_unmanaged (hsep : e.SeparateControllers) {t : Slot}
    (hm : m.isManaged t = false) :
    (capture m e).1.resolveClientBySlot t = e.resolveClientBySlot t ∧
      (capture m e).1.controllerAt t = e.controllerAt t ∧ (capture m e).2 t = {} := by
  obtain ⟨s, hsc, hsk, hss, h1, h2, h3⟩ := capture_view (hsep.unshared m t)
  have hbody : captureSlot m s t = s := by
    unfold captureSlot
    rw [hm]
    rfl
  rw [hbody] at h1 h2 h3
  exact ⟨h1.trans hsc, h2.trans hsk, h3.trans hss⟩

/-! ## Restore -/

theorem agree_restoreSlot (snapshots : ScopedBotIdentityRestore) (e : Engine) (slot : Slot) :
    SameButFlags e (restoreSlot m snapshots e slot) := by
  unfold restoreSlot
  dsimp only
  split
  · exact .refl _ _
  · split
    · exact .refl _ _
    · split
      · exact .refl _ _
      · have hmerge : SameButFlags e (e.modifyClient slot (snapshots slot).mergeClient) :=
          agree_modifyClient _ _ (identity_mergeClient _)
        split
        · exact hmerge
        · split
          · exact hmerge
          · exact hmerge.trans (agree_modifyEntity _ _ _ (identity_mergeController _))

theorem only_restoreSlot (snapshots : ScopedBotIdentityRestore) (e : Engine) (slot : Slot) :
    Only slot.val e (restoreSlot m snapshots e slot) := by
  unfold restoreSlot
  dsimp only
  split
  · exact .refl _ _
  · split
    · exact .refl _ _
    · rename_i c hc
      split
      · exact .refl _ _
      · have hmerge : Only slot.val e (e.modifyClient slot (snapshots slot).mergeClient) :=
          only_modifyClient (u := (snapshots slot).mergeClient) _ _ fun _ => rfl
        split
        · exact hmerge
        · rename_i k hk
          split
          · exact hmerge
          · refine hmerge.trans (only_modifyEntity (c := (snapshots slot).mergeClient c) _ ?_ hk
              (identity_mergeController _))
            rw [resolveClientBySlot_modifyClient_self, hc]
            rfl

theorem agree_restore (m : FakeClientManager) (snapshots : ScopedBotIdentityRestore)
    (e : Engine) : SameButFlags e (restore m snapshots e) :=
  Sweep.foldl_rel (fun _ => .refl _ _) (fun _ _ _ => .trans)
    (fun e slot => agree_restoreSlot snapshots e slot) allSlots e

/-- A restore at another slot leaves a controller alone that the slot does not share. -/
theorem controllerAt_restoreSlot_of_ne (snapshots : ScopedBotIdentityRestore) {slot t : Slot}
    (hu : e.Unshared m t) (h : slot ≠ t) :
    (restoreSlot m snapshots e slot).controllerAt t = e.controllerAt t := by
  have hkeep : ∀ c : Client, ((snapshots slot).mergeClient c).entityIndex = c.entityIndex :=
    fun _ => rfl
  have hmerge := controllerAt_modifyClient e slot t hkeep
  unfold restoreSlot
  dsimp only
  split
  · rfl
  · rename_i hm
    split
    · rfl
    · rename_i c hc
      split
      · rfl
      · split
        · exact hmerge
        · rename_i k hk
          split
          · exact hmerge
          · refine (controllerAt_modifyEntity_of_unshared (s := slot)
              (c := (snapshots slot).mergeClient c) (hu.of_agree (agree_modifyClient _ _ hkeep)) h
              (by simpa using hm) ?_ hk (identity_mergeController _)).trans hmerge
            rw [resolveClientBySlot_modifyClient_self, hc]
            rfl

/-- A slot's client and controller after `Restore` are what the body at that slot makes of
them, if it shares its controller with no other slot. -/
theorem restore_view (snapshots : ScopedBotIdentityRestore) {t : Slot} (hu : e.Unshared m t) :
    ∃ e', e'.resolveClientBySlot t = e.resolveClientBySlot t ∧
      e'.controllerAt t = e.controllerAt t ∧
      (restore m snapshots e).resolveClientBySlot t =
        (restoreSlot m snapshots e' t).resolveClientBySlot t ∧
      (restore m snapshots e).controllerAt t = (restoreSlot m snapshots e' t).controllerAt t := by
  obtain ⟨e', -, hview, hres⟩ := Sweep.foldl_at (f := restoreSlot m snapshots) (j := t)
    (p := fun e => e.Unshared m t)
    (v := fun e => (e.resolveClientBySlot t, e.controllerAt t))
    (fun e slot hu => hu.of_agree (only_restoreSlot snapshots e slot).agree)
    (fun e slot hu hst => Prod.ext
      ((only_restoreSlot snapshots e slot).client t fun heq => hst (Fin.ext heq).symm)
      (controllerAt_restoreSlot_of_ne snapshots hu hst))
    allSlots_nodup (mem_allSlots t) (s := e) hu
  simp only [Prod.mk.injEq] at hview hres
  exact ⟨e', hview.1, hview.2, hres⟩

/-- After `Restore` a managed slot with a controller of its own, still bound to its snapshot,
has the captured bits back; any other is as it was. -/
theorem restore_of_unshared (snapshots : ScopedBotIdentityRestore) {t : Slot}
    (hu : e.Unshared m t) {c : Client} {k : Entity} (hm : m.isManaged t = true)
    (hc : e.resolveClientBySlot t = some c) (hk : e.controllerAt t = some k) :
    (restore m snapshots e).resolveClientBySlot t =
        some (if (snapshots t).Bound c then (snapshots t).mergeClient c else c) ∧
      (restore m snapshots e).controllerAt t =
        some (if (snapshots t).Bound c ∧ (snapshots t).BoundController k then
          (snapshots t).mergeController k else k) := by
  obtain ⟨e', hec, hek, h1, h2⟩ := restore_view snapshots hu
  rw [hc] at hec
  rw [hk] at hek
  have hr : e'.resolveController c = some k := by
    unfold controllerAt at hek
    rw [hec] at hek
    exact hek
  rw [h1, h2]
  unfold restoreSlot
  rw [hm, hec]
  simp only [Bool.not_true, Bool.false_eq_true, if_false]
  by_cases hb : (snapshots t).Bound c
  · have hc' : (e'.modifyClient t (snapshots t).mergeClient).resolveClientBySlot t =
        some ((snapshots t).mergeClient c) := by
      rw [resolveClientBySlot_modifyClient_self, hec]
      rfl
    have hk' : (e'.modifyClient t (snapshots t).mergeClient).controllerAt t = some k := by
      rw [controllerAt_modifyClient (f := (snapshots t).mergeClient) _ _ _ fun _ => rfl, hek]
    simp only [hb, not_true_eq_false, if_false, if_true, true_and, resolveController_modifyClient]
    rw [hr]
    dsimp only
    by_cases hbk : (snapshots t).BoundController k
    · have hpos := e'.pos_of_resolveEntityInstance ((e'.resolveController_eq_some).mp hr).1
      simp only [hbk, not_true_eq_false, if_false, if_true]
      refine ⟨hc', ?_⟩
      rw [controllerAt_modifyEntity (f := (snapshots t).mergeController) _ hc' hpos fun _ => rfl,
        if_pos (show ((snapshots t).mergeClient c).entityIndex = c.entityIndex from rfl), hk']
      rfl
    · simp only [hbk, not_false_eq_true, if_true, if_false]
      exact ⟨hc', hk'⟩
  · simp only [hb, not_false_eq_true, if_true, if_false, false_and]
    exact ⟨hec, hek⟩

/-- The same where no two clients share a controller. -/
theorem restore_of_managed (snapshots : ScopedBotIdentityRestore) (hsep : e.SeparateControllers)
    {t : Slot} {c : Client} {k : Entity} (hm : m.isManaged t = true)
    (hc : e.resolveClientBySlot t = some c) (hk : e.controllerAt t = some k) :
    (restore m snapshots e).resolveClientBySlot t =
        some (if (snapshots t).Bound c then (snapshots t).mergeClient c else c) ∧
      (restore m snapshots e).controllerAt t =
        some (if (snapshots t).Bound c ∧ (snapshots t).BoundController k then
          (snapshots t).mergeController k else k) :=
  restore_of_unshared snapshots (hsep.unshared m t) hm hc hk

/-- `Restore` does nothing about a slot that is not managed. -/
theorem restore_of_unmanaged (snapshots : ScopedBotIdentityRestore)
    (hsep : e.SeparateControllers) {t : Slot} (hm : m.isManaged t = false) :
    (restore m snapshots e).resolveClientBySlot t = e.resolveClientBySlot t ∧
      (restore m snapshots e).controllerAt t = e.controllerAt t := by
  obtain ⟨e', hec, hek, h1, h2⟩ := sweep_view (only_restoreSlot (m := m) snapshots) hsep t
  have hbody : restoreSlot m snapshots e' t = e' := by
    unfold restoreSlot
    rw [hm]
    rfl
  rw [hbody] at h1 h2
  exact ⟨h1.trans hec, h2.trans hek⟩

/-! ## Occupied SteamIDs -/

/-- **Coverage.** A SteamID outside the occupied set is no other client's and no
other managed slot's. -/
theorem notMem_collectOccupiedSteamIds {slot : Slot} {occupied : List UInt64} {sid : UInt64}
    (h : collectOccupiedSteamIds m e slot = some occupied) (hsid : sid ∉ occupied) :
    (∀ (i : Nat) (c : Client), i ≠ slot → e.resolveClientBySlot i = some c → sid ≠ 0 →
      c.steamId ≠ sid) ∧
    ∀ t, t ≠ slot → m.isManaged t = true → m.getSyntheticSid t ≠ sid := by
  unfold collectOccupiedSteamIds at h
  split at h
  · cases h
  · rename_i clients hlist
    split at h
    · cases h
    · obtain rfl := Option.some.inj h
      rw [List.mem_append, not_or] at hsid
      constructor
      · intro i c hi hc hne heq
        refine hsid.1 (List.mem_filterMap.mpr ⟨i, ?_, ?_⟩)
        · rw [List.mem_range]
          by_contra hge
          unfold resolveClientBySlot at hc
          rw [hlist] at hc
          dsimp only at hc
          rw [List.getElem?_eq_none (by omega)] at hc
          cases hc
        · unfold resolveClientBySlot at hc
          rw [hlist] at hc
          dsimp only at hc
          simp [occupantSteamId, hi, hc, heq, hne]
      · intro t ht hm heq
        refine hsid.2 (List.mem_filterMap.mpr ⟨t, mem_allSlots t, ?_⟩)
        simp [reservedSteamId, ht, hm, heq]

theorem available_of_checkSteamIdAvailability {slot : Slot} {sid : UInt64}
    (h : checkSteamIdAvailability m e slot sid = .available) :
    sid ≠ 0 ∧ ∃ occupied, collectOccupiedSteamIds m e slot = some occupied ∧ sid ∉ occupied := by
  unfold checkSteamIdAvailability at h
  split at h
  · cases h
  · rename_i hne
    split at h
    · cases h
    · rename_i occupied hocc
      split at h
      · cases h
      · rename_i hnot
        exact ⟨hne, occupied, hocc, by simpa using hnot⟩

end BotHider.Model
