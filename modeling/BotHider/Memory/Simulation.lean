import BotHider.Disguise.Packing
import BotHider.Memory.Cells
import Mathlib.Data.List.ReduceOption

/-!
# BotHider — the functions on the bytes do what those on the engine do

Each function of `identity_runtime.cpp` and `identity_hooks.cpp` that writes clients or
entities, run on the bytes, leaves the engine in them as the function of the same name leaves
the engine: one lemma a function, the loops by `simulated_foldl`.
-/

namespace BotHider.Model

namespace EngineMemory

variable {b : EngineBinding} {e : EngineMemory} {m : FakeClientManager}

/-! ## Loops -/

/-- A loop over the slots with a result besides. -/
theorem simulated_foldl {α : Type} {e₀ : EngineMemory}
    {body : EngineMemory × α → Slot → EngineMemory × α} {body' : Engine × α → Slot → Engine × α}
    (hbody : ∀ s slot, Kept b e₀ s.1 →
      Simulated b s.1 (body s slot).1 (body' (s.1.engine b, s.2) slot).1 ∧
        (body s slot).2 = (body' (s.1.engine b, s.2) slot).2) (l : List Slot) :
    ∀ s : EngineMemory × α, Kept b e₀ s.1 →
      Simulated b s.1 (l.foldl body s).1 (l.foldl body' (s.1.engine b, s.2)).1 ∧
        (l.foldl body s).2 = (l.foldl body' (s.1.engine b, s.2)).2 := by
  induction l with
  | nil => exact fun s h => ⟨.refl h.laid, rfl⟩
  | cons slot l ih =>
    intro s h
    obtain ⟨h1, h2⟩ := hbody s slot h
    obtain ⟨h3, h4⟩ := ih (body s slot) (h.trans h1.kept)
    rw [h1.engine, h2] at h3 h4
    exact ⟨h1.trans h3, h4⟩

/-- A loop over the slots. -/
theorem simulated_loop {ι : Type} {body : EngineMemory → ι → EngineMemory}
    {body' : Engine → ι → Engine}
    (hbody : ∀ e i, Laid b e → Simulated b e (body e i) (body' (e.engine b) i)) (l : List ι) :
    ∀ e : EngineMemory, e.Laid b → Simulated b e (l.foldl body e) (l.foldl body' (e.engine b)) := by
  induction l with
  | nil => exact fun e h => .refl h
  | cons i l ih =>
    intro e h
    have h1 := hbody e i h
    have h2 := ih (body e i) h1.kept.laid
    rw [h1.engine] at h2
    exact h1.trans h2

/-! ## Controllers -/

/-- What the class check behind `ResolveEntityInstance` finds at a client's entity index. -/
theorem controller_cases {slot : Nat} {f : FixedClient} (hf : ClientAt b e slot f) :
    ((e.controller b f.addr).1 = 0 ∨ (e.controller b f.addr).2 ≠ kPlayerController) ∧
        (e.engine b).resolveController (f.withCells (e.value b) slot) = none ∨
      ∃ k, EntityAt b e f.entityIndex k ∧ e.controller b f.addr = (k.addr, kPlayerController) ∧
        k.addr ≠ 0 ∧ (e.engine b).resolveController (f.withCells (e.value b) slot) =
          some (k.withCells (e.value b) f.entityIndex.toNat) := by
  unfold controller
  rw [hf.fields.1]
  rcases controller_eq (b := b) (e := e) f slot with h | ⟨k, hk, h0, hcls, hres⟩
  · exact .inl h
  · exact .inr ⟨k, hk, by rw [hk.found, hcls], h0, hres⟩

theorem simulated_setControllerFakeClientFlag (h : e.Laid b) (slot : Nat) (fakeClient : Bool) :
    Simulated b e (e.setControllerFakeClientFlag b slot fakeClient)
      ((e.engine b).setControllerFakeClientFlag slot fakeClient) := by
  unfold setControllerFakeClientFlag Engine.setControllerFakeClientFlag client
  rcases client_eq (b := b) (e := e) slot with ⟨h0, hnone⟩ | ⟨f, hf, hne⟩
  · rw [hnone, h0]
    exact .refl h
  · rw [hf.shown, hf.pointer]
    dsimp only
    rw [if_neg hne]
    rcases controller_cases hf with ⟨hbad, hnone⟩ | ⟨k, hk, hc, h0, hres⟩
    · rw [hnone, if_pos hbad]
      exact .refl h
    · rw [hres, hc, if_neg (by simp [h0])]
      exact simulated_flags h hk _

/-! ## Clients -/

theorem simulated_restoreClient (h : e.Laid b) {slot : Nat} {f : FixedClient}
    (hf : ClientAt b e slot f) (hne : f.addr ≠ 0) (slot' : Slot) (hslot : slot'.val = slot) :
    Simulated b e (e.restoreClient b slot) (BotHider.Model.restoreClient (e.engine b) slot') := by
  unfold restoreClient BotHider.Model.restoreClient client
  rw [hf.pointer, hslot]
  dsimp only
  rw [if_neg hne]
  -- each write starts where the one before it has left the engine
  have h1 := simulated_setFakePlayer h hf
  have h2 := simulated_setControllerFakeClientFlag h1.kept.laid slot true
  rw [h1.engine] at h2
  have h3 := simulated_writeSteamId h2.kept.laid ((hf.kept h1.kept).kept h2.kept) 0
  rw [h2.engine] at h3
  exact h1.trans (h2.trans h3)

theorem simulated_restoreManagedClients (h : e.Laid b) :
    Simulated b e (e.restoreManagedClients b m)
      (BotHider.Model.restoreManagedClients m (e.engine b)) := by
  refine simulated_loop (fun e slot h => ?_) allSlots e h
  unfold restoreManagedClientSlot BotHider.Model.restoreManagedClientSlot
  by_cases hm : m.isManaged slot = true
  · rw [hm]
    simp only [Bool.not_true, Bool.false_eq_true, if_false]
    rcases client_eq (b := b) (e := e) slot.val with ⟨h0, hnone⟩ | ⟨f, hf, hne⟩
    · rw [hnone]
      unfold restoreClient client
      rw [h0]
      exact .refl h
    · rw [hf.shown]
      exact simulated_restoreClient h hf hne slot rfl
  · simp only [hm, Bool.not_false, if_true]
    exact .refl h

theorem simulated_applyManagedDisguise (h : e.Laid b) (disguised : Bool) :
    Simulated b e (e.applyManagedDisguise b m disguised)
      (BotHider.Model.applyManagedDisguise m disguised (e.engine b)) := by
  refine simulated_loop (fun e slot h => ?_) allSlots e h
  unfold applyManagedDisguiseSlot BotHider.Model.applyManagedDisguiseSlot client
  by_cases hm : m.isManaged slot = true
  · rw [hm]
    simp only [Bool.not_true, Bool.false_eq_true, if_false]
    rcases client_eq (b := b) (e := e) slot.val with ⟨h0, hnone⟩ | ⟨f, hf, hne⟩
    · rw [hnone, h0]
      exact .refl h
    · rw [hf.shown, hf.pointer, if_neg hne]
      dsimp only
      -- the flag bytes, the controller's flag, and the SteamID unless it is zero
      have h1 : Simulated b e (e.withMemory ((if disguised then b.clearFakePlayer f.addr
          else b.setFakePlayer f.addr) e.memory)) ((e.engine b).modifyClient slot
            (if disguised then Client.clearFakePlayer else Client.setFakePlayer)) := by
        cases disguised with
        | true => exact simulated_clearFakePlayer h hf
        | false => exact simulated_setFakePlayer h hf
      have h2 := simulated_setControllerFakeClientFlag h1.kept.laid slot.val (!disguised)
      rw [h1.engine] at h2
      by_cases hs : m.getSyntheticSid slot ≠ 0
      · rw [if_pos hs, if_pos hs]
        have h3 := simulated_writeSteamId h2.kept.laid ((hf.kept h1.kept).kept h2.kept)
          (m.getSyntheticSid slot)
        rw [h2.engine] at h3
        exact h1.trans (h2.trans h3)
      · rw [if_neg hs, if_neg hs]
        exact h1.trans h2
  · simp only [hm, Bool.not_false, if_true]
    exact .refl h

/-! ## Scoped restore -/

/-- The client that is shown after a write to it. -/
theorem withCells_of_simulated {e' : EngineMemory} {slot : Nat} {f : FixedClient}
    {u : Client → Client} (hf : ClientAt b e slot f)
    (h : Simulated b e e' ((e.engine b).modifyClient slot u)) :
    f.withCells (e'.value b) slot = u (f.withCells (e.value b) slot) := by
  have hs := (hf.kept h.kept).shown
  rw [h.engine, Engine.resolveClientBySlot_modifyClient_self, hf.shown, Option.map_some] at hs
  exact (Option.some.inj hs).symm

/-- The entity that is shown after a write to it. -/
theorem withCells_of_simulated_entity {e' : EngineMemory} {i : Int} {k : FixedEntity}
    {u : Entity → Entity} (hk : EntityAt b e i k)
    (h : Simulated b e e' ((e.engine b).modifyEntity i u)) :
    k.withCells (e'.value b) i.toNat = u (k.withCells (e.value b) i.toNat) := by
  have hs := (hk.kept h.kept).shown
  rw [h.engine, Engine.resolveEntityInstance_modifyEntity_self, hk.shown, Option.map_some] at hs
  exact (Option.some.inj hs).symm

theorem simulated_captureSlot (s : EngineMemory × ScopedBotIdentityRestore) (slot : Slot)
    (h : s.1.Laid b) :
    Simulated b s.1 (captureSlot b m s slot).1
        (BotHider.Model.captureSlot m (s.1.engine b, s.2) slot).1 ∧
      (captureSlot b m s slot).2 =
        (BotHider.Model.captureSlot m (s.1.engine b, s.2) slot).2 := by
  obtain ⟨e, snapshots⟩ := s
  unfold captureSlot BotHider.Model.captureSlot client
  by_cases hm : m.isManaged slot = true
  · rw [hm]
    simp only [Bool.not_true, Bool.false_eq_true, if_false]
    rcases client_eq (b := b) (e := e) slot.val with ⟨h0, hnone⟩ | ⟨f, hf, hne⟩
    · rw [hnone, h0]
      exact ⟨.refl h, rfl⟩
    · rw [hf.shown, hf.pointer, if_neg hne]
      dsimp only
      have h1 := simulated_setFakePlayer h hf
      have hf1 := hf.kept h1.kept
      have hshown := withCells_of_simulated hf h1
      -- what is remembered of the client is what the engine shows of it
      have hflags := readByte_eq (span_client hf).1
      have hfake := readByte_eq (span_client hf).2.1
      have hflags1 := readByte_eq (span_client hf1).1
      have hafter : BitVec.ofNat 8 ((e.withMemory (b.setFakePlayer f.addr e.memory)).value b
          (.connectionFlags slot.val)) =
            (f.withCells (e.value b) slot).setFakePlayer.connectionFlags :=
        congrArg Client.connectionFlags hshown
      rw [hflags, hfake, hf.fields.2.1, hflags1, hafter]
      have hctrl : ((e.engine b).modifyClient slot.val Client.setFakePlayer).resolveController
          (f.withCells (e.value b) slot) = ((e.withMemory
            (b.setFakePlayer f.addr e.memory)).engine b).resolveController (f.withCells
              ((e.withMemory (b.setFakePlayer f.addr e.memory)).value b) slot) := by
        rw [h1.engine]
        rfl
      rw [hctrl]
      rcases controller_cases hf1 with ⟨hbad, hnone⟩ | ⟨k, hk, hc, hk0, hres⟩
      · rw [hnone, if_pos (by tauto)]
        exact ⟨h1, rfl⟩
      · rw [hres, hc, hk.deleted]
        dsimp only
        by_cases hd : k.beingDeleted = true
        · rw [if_pos (.inr (.inr hd))]
          have hdel : (k.withCells ((e.withMemory (b.setFakePlayer f.addr e.memory)).value b)
              f.entityIndex.toNat).beingDeleted = true := hd
          rw [if_pos hdel]
          exact ⟨h1, rfl⟩
        · have hdel : ¬ (k.withCells ((e.withMemory (b.setFakePlayer f.addr e.memory)).value b)
              f.entityIndex.toNat).beingDeleted = true := hd
          rw [if_neg (by simp [hk0, hd]), if_neg hdel]
          have h2 := simulated_flags h1.kept.laid hk (· ||| kEntityFlagFakeClient)
          have hk2 := flags_eq (hk.kept h2.kept)
          have hk2' := withCells_of_simulated_entity hk h2
          rw [h1.engine] at h2
          refine ⟨h1.trans h2, ?_⟩
          dsimp only
          rw [hk.handle, hk2, hk2', flags_eq hk]
          rfl
  · simp only [hm, Bool.not_false, if_true]
    exact ⟨.refl h, trivial⟩

theorem simulated_capture (h : e.Laid b) :
    Simulated b e (e.capture b m).1 (BotHider.Model.capture m (e.engine b)).1 ∧
      (e.capture b m).2 = (BotHider.Model.capture m (e.engine b)).2 :=
  simulated_foldl (fun s slot hk => simulated_captureSlot s slot hk.laid) allSlots
    (e, fun _ => {}) (.refl h)

theorem simulated_mergeClient (h : e.Laid b) {slot : Nat} {f : FixedClient}
    (hf : ClientAt b e slot f) (snapshot : BotIdentitySnapshot) :
    Simulated b e (e.mergeClient b snapshot f.addr)
      ((e.engine b).modifyClient slot snapshot.mergeClient) := by
  unfold mergeClient
  dsimp only
  have h1 := simulated_connectionFlags h hf fun flags =>
    Mask.merge flags snapshot.connectionFlags snapshot.connectionFlagsMask
  by_cases hfake : snapshot.fakePlayer ≠ 1
  · rw [if_pos hfake]
    have h2 := simulated_fakePlayerByte h1.kept.laid (hf.kept h1.kept) snapshot.fakePlayer
    rw [h1.engine, modifyClient_modifyClient] at h2
    have hmerge : snapshot.mergeClient =
        (fun c : Client => { c with fakePlayer := snapshot.fakePlayer }) ∘
          fun c : Client => { c with
            connectionFlags :=
              Mask.merge c.connectionFlags snapshot.connectionFlags
                snapshot.connectionFlagsMask } := by
      funext c
      unfold BotIdentitySnapshot.mergeClient
      rw [if_pos hfake]
      rfl
    rw [hmerge]
    exact h1.trans h2
  · rw [if_neg hfake]
    have hmerge : snapshot.mergeClient = fun c : Client => { c with
        connectionFlags :=
          Mask.merge c.connectionFlags snapshot.connectionFlags snapshot.connectionFlagsMask } := by
      funext c
      unfold BotIdentitySnapshot.mergeClient
      rw [if_neg hfake]
    rw [hmerge]
    exact h1

theorem simulated_restoreSlot (snapshots : ScopedBotIdentityRestore) (h : e.Laid b) (slot : Slot) :
    Simulated b e (restoreSlot b m snapshots e slot)
      (BotHider.Model.restoreSlot m snapshots (e.engine b) slot) := by
  unfold restoreSlot BotHider.Model.restoreSlot client
  by_cases hm : m.isManaged slot = true
  · rw [hm]
    simp only [Bool.not_true, Bool.false_eq_true, if_false]
    rcases client_eq (b := b) (e := e) slot.val with ⟨h0, hnone⟩ | ⟨f, hf, hne⟩
    · rw [hnone, if_pos (.inl h0)]
      exact .refl h
    · rw [hf.shown, hf.pointer, hf.fields.2.1]
      dsimp only
      have hbound : (snapshots slot).Bound (f.withCells (e.value b) slot) ↔
          (snapshots slot).client = some f.addr ∧ f.userId = (snapshots slot).userId := Iff.rfl
      by_cases hb : (snapshots slot).Bound (f.withCells (e.value b) slot)
      · obtain ⟨hclient, huser⟩ := hbound.mp hb
        rw [if_neg (by simp [hne, hclient, huser]), if_neg (not_not.mpr hb)]
        have h1 := simulated_mergeClient h hf (snapshots slot)
        have hf1 := hf.kept h1.kept
        -- the entity index is not written, so the controller is looked up where it was
        have hctrl : ((e.engine b).modifyClient slot.val
            (snapshots slot).mergeClient).resolveController (f.withCells (e.value b) slot) =
              ((e.mergeClient b (snapshots slot) f.addr).engine b).resolveController
                (f.withCells ((e.mergeClient b (snapshots slot) f.addr).value b) slot) := by
          rw [h1.engine]
          rfl
        rw [hctrl]
        rcases controller_cases hf1 with ⟨hbad, hnone⟩ | ⟨k, hk, hc, hk0, hres⟩
        · rw [hnone, if_pos (by tauto)]
          exact h1
        · rw [hres, hc, hk.deleted, hk.handle]
          dsimp only
          have hcls := ((Engine.resolveController_eq_some _).mp hres).2
          have hiff : (snapshots slot).BoundController (k.withCells
              ((e.mergeClient b (snapshots slot) f.addr).value b) f.entityIndex.toNat) ↔
              (snapshots slot).controller = some k.addr ∧ k.beingDeleted = false ∧
                k.handle = (snapshots slot).handle :=
            ⟨fun h => ⟨h.1, h.2.1.2, h.2.2⟩, fun h => ⟨h.1, ⟨hcls, h.2.1⟩, h.2.2⟩⟩
          by_cases hbc : (snapshots slot).BoundController (k.withCells
              ((e.mergeClient b (snapshots slot) f.addr).value b) f.entityIndex.toNat)
          · obtain ⟨hcontroller, hdel, hhandle⟩ := hiff.mp hbc
            rw [if_neg (by simp [hk0, hcontroller, hdel, hhandle]), if_neg (not_not.mpr hbc)]
            have h2 := simulated_flags h1.kept.laid hk fun flags =>
              Mask.merge flags (snapshots slot).controllerFlags (snapshots slot).controllerFlagsMask
            rw [h1.engine] at h2
            exact h1.trans h2
          · rw [if_pos, if_pos hbc]
            · exact h1
            · rw [hiff] at hbc
              by_contra hgood
              simp only [not_or, not_not, Bool.not_eq_true] at hgood
              exact hbc ⟨hgood.2.1, hgood.2.2.2.1, hgood.2.2.2.2⟩
      · rw [if_pos, if_pos hb]
        · exact .refl h
        · rw [hbound] at hb
          tauto
  · simp only [hm, Bool.not_false, if_true]
    exact .refl h

theorem simulated_restore (h : e.Laid b) (snapshots : ScopedBotIdentityRestore) :
    Simulated b e (e.restore b m snapshots)
      (BotHider.Model.restore m snapshots (e.engine b)) :=
  simulated_loop (fun _ slot h => simulated_restoreSlot snapshots h slot) allSlots e h

/-! ## Pawns -/

/-- The pawn of a client is an entity the engine shows. -/
theorem entityAt_of_pawn {slot : Nat} {ref : PawnRef}
    (hp : (b.resolveClientPawn e.entitySystemGlobal (e.client b slot)).run e.memory = some ref) :
    ∃ k, EntityAt b e (entryIndex ref.handle) k ∧ k.addr = ref.pawn := by
  unfold client at hp
  rw [pawn_eq] at hp
  obtain ⟨pawn, hshown, haddr, -⟩ := resolveClientPawn_eq_some hp
  rcases entity_eq (b := b) (e := e) (entryIndex ref.handle) with ⟨-, hnone⟩ | ⟨k, hk, -⟩
  · rw [hshown] at hnone
    cases hnone
  · refine ⟨k, hk, ?_⟩
    rw [hk.shown, Option.some.injEq] at hshown
    rw [← haddr, ← hshown]
    rfl

theorem exists_fixed {i : Int} {k : Entity} (h : (e.engine b).resolveEntityInstance i = some k) :
    ∃ f, (e.fixed b).entities i.toNat = some f ∧ k = f.withCells (e.value b) i.toNat := by
  rw [resolveEntityInstance_engine] at h
  split at h
  · cases h
  · obtain ⟨f, hf, rfl⟩ := Option.map_eq_some_iff.mp h
    exact ⟨f, hf, rfl⟩

/-- The controller of a client has the handle of the client's pawn. -/
theorem isPawn_of_pawn {slot : Nat} {ref : PawnRef}
    (hp : (b.resolveClientPawn e.entitySystemGlobal (e.client b slot)).run e.memory = some ref) :
    (e.fixed b).isPawn (entryIndex ref.handle).toNat = true := by
  unfold client at hp
  rw [pawn_eq] at hp
  obtain ⟨pawn, hshown, -, hhandle, -⟩ := resolveClientPawn_eq_some hp
  obtain ⟨c, g, controller, hc, hg, hcontroller, hnamed⟩ := controller_of_resolveClientPawn hp
  obtain ⟨hfound, hcls⟩ := (Engine.resolveController_eq_some _).mp hcontroller
  obtain ⟨k, hk, rfl⟩ := exists_fixed hfound
  obtain ⟨k', hk', rfl⟩ := exists_fixed hshown
  obtain ⟨_, -, rfl⟩ := Option.map_eq_some_iff.mp hg
  rcases client_eq (b := b) (e := e) slot with ⟨-, hnone⟩ | ⟨f, hf, -⟩
  · rw [hnone] at hc
    cases hc
  · obtain rfl := Option.some.inj (hf.shown.symm.trans hc)
    refine List.any_eq_true.mpr ⟨f, ?_, ?_⟩
    · exact List.reduceOption_mem_iff.mpr
        (List.mem_of_getElem? (Option.join_eq_some_iff.mp hf.fixed))
    · change (e.fixed b).entities f.entityIndex.toNat = some k at hk
      dsimp only at hnamed
      rw [show (f.withCells (e.value b) slot).entityIndex = f.entityIndex from rfl, hk] at hnamed
      rw [hk, hk']
      dsimp only
      rw [Bool.and_eq_true, beq_iff_eq, beq_iff_eq]
      exact ⟨(className_iff k _ _).mp hcls, hnamed.trans hhandle.symm⟩

theorem pawnHandles_kept {e' : EngineMemory} (h : Kept b e e') :
    e'.pawnHandles b = e.pawnHandles b := by
  unfold pawnHandles
  rw [h.fixed]

theorem hasBot_iff (k : Entity) : k.hasBot = false ↔ k.flags &&& kEntityFlagBot = 0 := by
  unfold Entity.hasBot
  simp

theorem simulated_applyBotFlagSlot {handles : Option (Nat → UInt32)}
    (s : EngineMemory × List PawnRef) (slot : Slot) (h : s.1.Laid b)
    (hh : s.1.pawnHandles b = handles) :
    Simulated b s.1 (applyBotFlagSlot b m s slot).1
        (BotHider.Model.applyBotFlagSlot m handles (s.1.engine b, s.2) slot).1 ∧
      (applyBotFlagSlot b m s slot).2 =
        (BotHider.Model.applyBotFlagSlot m handles (s.1.engine b, s.2) slot).2 := by
  obtain ⟨e, modified⟩ := s
  subst hh
  unfold applyBotFlagSlot BotHider.Model.applyBotFlagSlot
  by_cases hm : m.isManaged slot = true
  · rw [hm]
    simp only [Bool.not_true, Bool.false_eq_true, if_false]
    have hpawn := pawn_eq (b := b) (e := e) slot.val
    cases hp : (b.resolveClientPawn e.entitySystemGlobal (e.client b slot)).run e.memory with
    | none =>
      rw [← hpawn]
      unfold client at hp
      rw [hp]
      exact ⟨.refl h, rfl⟩
    | some ref =>
      obtain ⟨k, hk, haddr⟩ := entityAt_of_pawn hp
      unfold client at hp
      rw [← hpawn, hp]
      dsimp only
      rw [hk.shown, ← haddr, flags_eq hk]
      dsimp only
      -- a pawn that two controllers share is cleared once
      by_cases hbot : (k.withCells (e.value b) (entryIndex ref.handle).toNat).flags &&&
          kEntityFlagBot = 0
      · rw [if_pos hbot, (hasBot_iff _).mpr hbot]
        exact ⟨.refl h, rfl⟩
      · have hhas : (k.withCells (e.value b) (entryIndex ref.handle).toNat).hasBot = true := by
          rw [← Bool.not_eq_false, hasBot_iff]
          exact hbot
        rw [if_neg hbot, hhas]
        exact ⟨simulated_flags h hk (· &&& ~~~kEntityFlagBot), rfl⟩
  · simp only [hm, Bool.not_false, if_true]
    exact ⟨.refl h, trivial⟩

theorem simulated_applyBotFlagOverride (h : e.Laid b) (modified : List PawnRef) :
    Simulated b e (e.applyBotFlagOverride b m modified).1
        (BotHider.Model.applyBotFlagOverride m (e.pawnHandles b) (e.engine b) modified).1 ∧
      (e.applyBotFlagOverride b m modified).2 =
        (BotHider.Model.applyBotFlagOverride m (e.pawnHandles b) (e.engine b) modified).2 :=
  simulated_foldl (fun s slot hk => simulated_applyBotFlagSlot s slot hk.laid (pawnHandles_kept hk))
    allSlots (e, modified) (.refl h)

theorem simulated_restoreBotFlag (h : e.Laid b) (ref : PawnRef) :
    Simulated b e (restoreBotFlag b e ref) (BotHider.Model.restoreBotFlag (e.engine b) ref) := by
  unfold restoreBotFlag BotHider.Model.restoreBotFlag
  rw [found_without_className]
  rcases entity_eq (b := b) (e := e) (entryIndex ref.handle) with ⟨h0, hnone⟩ | ⟨k, hk, hne⟩
  · rw [hnone, h0]
    dsimp only
    rw [if_pos]
    · exact .refl h
    · refine .inr (.inl ?_)
      unfold EngineBinding.isEntityBeingDeleted
      rw [if_pos rfl, Read.run_pure]
  · rw [hk.shown, hk.found]
    dsimp only
    rw [hk.deleted, hk.handle]
    have hiff : ((k.withCells (e.value b) (entryIndex ref.handle).toNat).addr ≠ ref.pawn ∨
        (k.withCells (e.value b) (entryIndex ref.handle).toNat).beingDeleted = true ∨
        (k.withCells (e.value b) (entryIndex ref.handle).toNat).handle ≠ ref.handle) ↔
        (k.addr ≠ ref.pawn ∨ k.beingDeleted = true ∨ k.handle ≠ ref.handle) := Iff.rfl
    by_cases hbad : k.addr ≠ ref.pawn ∨ k.beingDeleted = true ∨ k.handle ≠ ref.handle
    · rw [if_pos hbad, if_pos (hiff.mpr hbad)]
      exact .refl h
    · rw [if_neg hbad, if_neg (mt hiff.mp hbad)]
      exact simulated_flags h hk (· ||| kEntityFlagBot)

theorem simulated_restoreBotFlagOverride (h : e.Laid b) (pawns : List PawnRef) :
    Simulated b e (e.restoreBotFlagOverride b pawns)
      (BotHider.Model.restoreBotFlagOverride (e.engine b) pawns) :=
  simulated_loop (fun _ ref h => simulated_restoreBotFlag h ref) pawns e h

/-! ## Idle timers -/

/-- The idle timers are no part of the engine that is shown. -/
theorem engine_put_idleTime (h : e.Laid b) {j : Nat} {s : Nat × Nat}
    (hs : b.span (e.fixed b) (.idleTime j) = some s) (v : Nat) :
    (e.put b (.idleTime j) v).engine b = e.engine b := by
  have hv := value_put h hs v
  have hfixed := (kept_put h (.idleTime j) v).fixed
  -- no field of a client or an entity is the value of that cell
  have hc : ∀ (f : FixedClient) i,
      f.withCells ((e.put b (.idleTime j) v).value b) i = f.withCells (e.value b) i := by
    intro f i
    unfold FixedClient.withCells
    rw [hv]
    simp only [Function.update_apply, reduceCtorEq, if_false]
  have hk : ∀ (k : FixedEntity) i,
      k.withCells ((e.put b (.idleTime j) v).value b) i = k.withCells (e.value b) i := by
    intro k i
    unfold FixedEntity.withCells
    rw [hv]
    simp only [Function.update_apply, reduceCtorEq, if_false]
  unfold engine
  simp only [hfixed, hc, hk]
  rfl

theorem simulated_resetIdleSlot (h : e.Laid b) (slot : Slot) :
    Simulated b e (resetIdleSlot b m e slot) (e.engine b) := by
  unfold resetIdleSlot EngineBinding.resetIdleTimerForClient
  by_cases hm : m.isManaged slot = true
  · rw [hm]
    simp only [Bool.not_true, Bool.false_eq_true, if_false]
    by_cases h0 : e.client b slot = 0
    · rw [if_pos h0]
      exact .refl h
    · rw [if_neg h0]
      cases hp : (b.resolveClientPawn e.entitySystemGlobal (e.client b slot)).run e.memory with
      | none => exact .refl h
      | some ref =>
        cases ho : b.idleTimeOffset with
        | none => exact .refl h
        | some offset =>
          obtain ⟨k, hk, haddr⟩ := entityAt_of_pawn hp
          have hs : b.span (e.fixed b) (.idleTime (entryIndex ref.handle).toNat) =
              some (ref.pawn + offset, 4) := by
            unfold EngineBinding.span
            simp only [isPawn_of_pawn hp, if_true, hk.fixed, ho, Option.bind_some,
              Option.map_some, haddr]
          have hw : e.withMemory (writeWord (ref.pawn + offset) 0 e.memory) =
              e.put b (.idleTime (entryIndex ref.handle).toNat) (0 : BitVec 32).toNat :=
            congrArg e.withMemory (Layout.write_of_span (L := e.layout b) (m := e.memory)
              (i := .idleTime (entryIndex ref.handle).toNat) hs).symm
          dsimp only
          rw [hw]
          exact ⟨kept_put h _ _, engine_put_idleTime h hs _⟩
  · simp only [hm, Bool.not_false, if_true]
    exact .refl h

theorem simulated_resetIdleTimers (h : e.Laid b) :
    Simulated b e (e.resetIdleTimers b m) (e.engine b) := by
  have hloop := @simulated_loop b Slot (resetIdleSlot b m) (fun r _ => r)
    (fun _ slot h => simulated_resetIdleSlot h slot) allSlots e h
  have hsame : ∀ (l : List Slot) (r : Engine), l.foldl (fun r _ => r) r = r := by
    intro l
    induction l with
    | nil => exact fun _ => rfl
    | cons _ l ih => exact ih
  rwa [hsame] at hloop

end EngineMemory

end BotHider.Model
