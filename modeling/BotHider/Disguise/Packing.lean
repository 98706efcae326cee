import BotHider.Model.Packing
import BotHider.Model.System

/-!
# BotHider — packing hides `FL_BOT` and gives it back

While entities are packed the pawns of managed slots look like players'. Pawns die, handles
are reused and slots are released meanwhile, so what is given back is decided by the records
alone.

* `applyBotFlagOverride_eq`, `restoreBotFlagOverride_eq` — the two loops, as taking marks off
  cells and giving them back.
* `inside_run` — nothing that happens inside the outermost call touches the records, and nested
  calls touch nothing.
* `packing_gives_back` — what the outermost call does to every entity.
-/

namespace BotHider.Model

open Engine

/-! ## The loops -/

/-- The index of the entity a reference is to. -/
def PawnRef.index (ref : PawnRef) : Nat := (entryIndex ref.handle).toNat

/-- The pawn of a slot, if it is managed and has a live one. -/
def Engine.managedPawn (e : Engine) (m : FakeClientManager)
    (pawnHandles : Option (Nat → UInt32)) (slot : Slot) : Option PawnRef :=
  if m.isManaged slot then e.resolveClientPawn pawnHandles (e.resolveClientBySlot slot) else none

/-- The engine with other entities. -/
def Engine.withEntities (e : Engine) (entities : Nat → Option Entity) : Engine :=
  { e with entities }

theorem resolveEntityInstance_entryIndex (e : Engine) (ref : PawnRef) :
    e.resolveEntityInstance (entryIndex ref.handle) =
      if e.entitySystem = true ∧ 0 < ref.index then e.entities ref.index else none := by
  have hlt : ref.handle.toNat % 0x8000 < 0x8000 := Nat.mod_lt _ (by decide)
  unfold Engine.resolveEntityInstance PawnRef.index entryIndex
  simp only [Int.toNat_natCast]
  cases e.entitySystem with
  | false => rfl
  | true =>
    by_cases hpos : 0 < ref.handle.toNat % 0x8000
    · rw [if_neg (by simp; omega), if_pos ⟨rfl, hpos⟩]
    · rw [if_pos (by simp; omega), if_neg (by simp; omega)]

variable {m : FakeClientManager} {pawnHandles : Option (Nat → UInt32)} {e : Engine}

/-- A framed entity is there after the change exactly when it was before. -/
theorem entity_of_identity {x y : Option Entity} (h : x.map Entity.identity = y.map Entity.identity) :
    (x = none ∧ y = none) ∨ ∃ k l, x = some k ∧ y = some l ∧ k.identity = l.identity := by
  cases x with
  | none => exact Or.inl ⟨rfl, Option.map_eq_none_iff.mp h.symm⟩
  | some k =>
    obtain ⟨l, hl, hid⟩ := Option.map_eq_some_iff.mp h.symm
    exact Or.inr ⟨k, l, rfl, hl, hid.symm⟩

/-- Which pawn a client has does not depend on flags. -/
theorem resolveClientPawn_of_agree {e' : Engine} (h : Agree id e e')
    (client : Option Client) :
    e'.resolveClientPawn pawnHandles client = e.resolveClientPawn pawnHandles client := by
  cases client with
  | none => rfl
  | some c =>
    cases pawnHandles with
    | none => rfl
    | some handleOf =>
      have hcontroller : (e'.resolveController c = none ∧ e.resolveController c = none) ∨
          ∃ k l, e'.resolveController c = some k ∧ e.resolveController c = some l ∧
            k.identity = l.identity := entity_of_identity (h.resolveController rfl)
      have hpawn := entity_of_identity (h.resolveEntityInstance
        (entryIndex (handleOf c.entityIndex.toNat)))
      unfold Engine.resolveClientPawn
      dsimp only
      rcases hcontroller with ⟨hk, hl⟩ | ⟨k, l, hk, hl, hid⟩
      · rw [hk, hl]
      · have hdeleted : k.beingDeleted = l.beingDeleted := (congrArg Entity.beingDeleted hid : _)
        rw [hk, hl]
        dsimp only
        rw [hdeleted]
        rcases hpawn with ⟨hp, hq⟩ | ⟨p, q, hp, hq, hid⟩
        · rw [hp, hq]
        · have hgone : p.beingDeleted = q.beingDeleted := (congrArg Entity.beingDeleted hid : _)
          have haddr : p.addr = q.addr := (congrArg Entity.addr hid : _)
          have hhandle : p.handle = q.handle := (congrArg Entity.handle hid : _)
          rw [hp, hq]
          dsimp only
          rw [hgone, haddr, hhandle]

theorem managedPawn_of_agree {e' : Engine} (h : Agree id e e') (slot : Slot) :
    e'.managedPawn m pawnHandles slot = e.managedPawn m pawnHandles slot := by
  have hclient : e'.resolveClientBySlot slot = e.resolveClientBySlot slot := by
    simpa using h.resolveClientBySlot slot
  unfold Engine.managedPawn
  rw [hclient, resolveClientPawn_of_agree h]

/-- Entities that differ in their flags only. -/
theorem agree_withEntities {entities : Nat → Option Entity}
    (h : ∀ i, (entities i).map Entity.identity = (e.entities i).map Entity.identity) :
    Agree id e (e.withEntities entities) :=
  ⟨rfl, rfl, rfl, h⟩

/-- What a client's pawn is found by. -/
theorem resolveClientPawn_eq_some {client : Option Client} {ref : PawnRef}
    (h : e.resolveClientPawn pawnHandles client = some ref) :
    ∃ k, e.resolveEntityInstance (entryIndex ref.handle) = some k ∧ k.addr = ref.pawn ∧
      k.handle = ref.handle ∧ k.beingDeleted = false := by
  unfold Engine.resolveClientPawn at h
  split at h
  · rename_i c handleOf
    split at h
    · cases h
    · split at h
      · cases h
      · dsimp only at h
        split at h
        · cases h
        · split at h
          · cases h
          · rename_i k hk
            split at h
            · cases h
            · rename_i hlive
              obtain ⟨hgone, hhandle⟩ := not_or.mp hlive
              obtain rfl := Option.some.inj h
              exact ⟨k, hk, rfl, not_not.mp hhandle, by simpa using hgone⟩
  · cases h

/-- The controller of the client has the pawn's handle. -/
theorem controller_of_resolveClientPawn {client : Option Client} {ref : PawnRef}
    (h : e.resolveClientPawn pawnHandles client = some ref) :
    ∃ c g k, client = some c ∧ pawnHandles = some g ∧ e.resolveController c = some k ∧
      g c.entityIndex.toNat = ref.handle := by
  unfold Engine.resolveClientPawn at h
  split at h
  · rename_i c g
    split at h
    · cases h
    · rename_i k hk
      refine ⟨c, g, k, rfl, rfl, hk, ?_⟩
      dsimp only at h
      split_ifs at h
      split at h
      · cases h
      · split_ifs at h
        exact congrArg PawnRef.handle (Option.some.inj h)
  · cases h

/-- A pawn of a slot is at its reference's index. -/
theorem managedPawn_eq_some {slot : Slot} {ref : PawnRef}
    (h : e.managedPawn m pawnHandles slot = some ref) :
    e.entitySystem = true ∧ 0 < ref.index ∧ ∃ k, e.entities ref.index = some k ∧
      k.addr = ref.pawn ∧ k.handle = ref.handle ∧ k.beingDeleted = false := by
  unfold Engine.managedPawn at h
  split at h
  · obtain ⟨k, hk, hfacts⟩ := resolveClientPawn_eq_some h
    rw [resolveEntityInstance_entryIndex] at hk
    split at hk
    · rename_i hindex
      exact ⟨hindex.1, hindex.2, k, hk, hfacts⟩
    · cases hk
  · cases h

/-- Slots share a pawn exactly when their references are to one index. -/
theorem managedPawn_inj {s t : Slot} {ref ref' : PawnRef}
    (h : e.managedPawn m pawnHandles s = some ref)
    (h' : e.managedPawn m pawnHandles t = some ref') (hindex : ref.index = ref'.index) :
    ref = ref' := by
  obtain ⟨-, -, k, hk, haddr, hhandle, -⟩ := managedPawn_eq_some h
  obtain ⟨-, -, k', hk', haddr', hhandle', -⟩ := managedPawn_eq_some h'
  obtain rfl := Option.some.inj (hk.symm.trans ((congrArg e.entities hindex).trans hk'))
  cases ref
  cases ref'
  simp_all

/-! ## Hiding -/

/-- One slot of the override, as one step of taking `FL_BOT` off. -/
theorem applyBotFlagSlot_eq {entities : Nat → Option Entity} (taken : List PawnRef)
    (h : ∀ i, (entities i).map Entity.identity = (e.entities i).map Entity.identity)
    (slot : Slot) :
    applyBotFlagSlot m pawnHandles (e.withEntities entities, taken) slot =
      let s := Lend.takeOne PawnRef.index (e.managedPawn m pawnHandles) Entity.hasBot
        Entity.clearBot (entities, taken) slot
      (e.withEntities s.1, s.2) := by
  have hpawn : (e.withEntities entities).resolveClientPawn pawnHandles
      ((e.withEntities entities).resolveClientBySlot slot) =
      e.resolveClientPawn pawnHandles (e.resolveClientBySlot slot) :=
    resolveClientPawn_of_agree (agree_withEntities h) _
  unfold applyBotFlagSlot Lend.takeOne
  dsimp only
  rw [hpawn]
  cases hm : m.isManaged slot with
  | false => simp [Engine.managedPawn, hm]
  | true =>
    have htarget : e.managedPawn m pawnHandles slot =
        e.resolveClientPawn pawnHandles (e.resolveClientBySlot slot) := by
      simp [Engine.managedPawn, hm]
    rw [← htarget]
    cases href : e.managedPawn m pawnHandles slot with
    | none => rfl
    | some ref =>
      obtain ⟨hsystem, hpos, -⟩ := managedPawn_eq_some href
      have hcell : (e.withEntities entities).resolveEntityInstance (entryIndex ref.handle) =
          entities ref.index := by
        rw [resolveEntityInstance_entryIndex]
        exact if_pos ⟨hsystem, hpos⟩
      dsimp only
      rw [hcell]
      cases hk : entities ref.index with
      | none => rfl
      | some k =>
        dsimp only
        cases hbot : k.hasBot with
        | false => rfl
        | true =>
          have hwrite : (e.withEntities entities).modifyEntity (entryIndex ref.handle)
              Entity.clearBot =
              e.withEntities (Function.update entities ref.index (some k.clearBot)) := by
            unfold Engine.modifyEntity Engine.withEntities
            dsimp only
            rw [show (entryIndex ref.handle).toNat = ref.index from rfl, hk]
            rfl
          simp [hwrite]

theorem identity_takeOne {entities : Nat → Option Entity} {taken : List PawnRef}
    {target : Slot → Option PawnRef} (slot : Slot) (i : Nat) :
    ((Lend.takeOne PawnRef.index target Entity.hasBot Entity.clearBot (entities, taken)
      slot).1 i).map Entity.identity = (entities i).map Entity.identity := by
  unfold Lend.takeOne
  cases target slot with
  | none => rfl
  | some ref =>
    dsimp only
    cases hk : entities ref.index with
    | none => rfl
    | some k =>
      dsimp only
      split
      · by_cases hi : i = ref.index
        · subst hi
          simp [hk]
        · simp [hi]
      · rfl

/-- **Hiding.** The override takes `FL_BOT` off the pawns of the managed slots. -/
theorem applyBotFlagOverride_eq (m : FakeClientManager) (pawnHandles : Option (Nat → UInt32))
    (e : Engine) :
    applyBotFlagOverride m pawnHandles e [] =
      let s := Lend.take PawnRef.index (e.managedPawn m pawnHandles) Entity.hasBot
        Entity.clearBot allSlots e.entities
      (e.withEntities s.1, s.2) := by
  have hfold : ∀ (slots : List Slot) (entities : Nat → Option Entity) (taken : List PawnRef),
      (∀ i, (entities i).map Entity.identity = (e.entities i).map Entity.identity) →
      slots.foldl (applyBotFlagSlot m pawnHandles) (e.withEntities entities, taken) =
        let s := slots.foldl (Lend.takeOne PawnRef.index (e.managedPawn m pawnHandles)
          Entity.hasBot Entity.clearBot) (entities, taken)
        (e.withEntities s.1, s.2) := by
    intro slots
    induction slots with
    | nil => exact fun _ _ _ => rfl
    | cons slot slots ih =>
      intro entities taken h
      rw [List.foldl_cons, applyBotFlagSlot_eq taken h slot]
      exact ih _ _ fun i => (identity_takeOne slot i).trans (h i)
  exact hfold allSlots e.entities [] fun _ => rfl

/-! ## Giving back -/

/-- The entity is the pawn that was recorded, and it is not going away. -/
def Engine.AliveUnder (e : Engine) (ref : PawnRef) (k : Entity) : Prop :=
  e.resolveEntityInstance (entryIndex ref.handle) = some k ∧ k.addr = ref.pawn ∧
    k.handle = ref.handle ∧ k.beingDeleted = false

/-- The checks of `RestoreBotFlagOverride` on the entity at a reference's index. -/
def Engine.recognises (e : Engine) (ref : PawnRef) (k : Entity) : Bool :=
  decide (e.entitySystem = true ∧ 0 < ref.index) &&
    decide (k.addr = ref.pawn ∧ k.handle = ref.handle ∧ k.beingDeleted = false)

theorem aliveUnder_iff {ref : PawnRef} {k : Entity} :
    e.AliveUnder ref k ↔ e.entities ref.index = some k ∧ e.recognises ref k = true := by
  unfold Engine.AliveUnder Engine.recognises
  rw [resolveEntityInstance_entryIndex, Bool.and_eq_true, decide_eq_true_eq, decide_eq_true_eq]
  by_cases hindex : e.entitySystem = true ∧ 0 < ref.index
  · rw [if_pos hindex]
    simp only [hindex, true_and, and_self]
  · rw [if_neg hindex]
    exact iff_of_false (fun h => nomatch h.1) fun h => hindex h.2.1

theorem restoreBotFlag_eq (entities : Nat → Option Entity) (ref : PawnRef) :
    restoreBotFlag (e.withEntities entities) ref =
      e.withEntities (Lend.giveOne PawnRef.index e.recognises Entity.setBot entities ref) := by
  have hresolve : (e.withEntities entities).resolveEntityInstance (entryIndex ref.handle) =
      if e.entitySystem = true ∧ 0 < ref.index then entities ref.index else none :=
    resolveEntityInstance_entryIndex ..
  unfold restoreBotFlag Lend.giveOne
  rw [hresolve]
  by_cases hindex : e.entitySystem = true ∧ 0 < ref.index
  · rw [if_pos hindex]
    cases hk : entities ref.index with
    | none => rfl
    | some k =>
      dsimp only
      have hwrite : (e.withEntities entities).modifyEntity (entryIndex ref.handle)
          Entity.setBot =
          e.withEntities (Function.update entities ref.index (some k.setBot)) := by
        unfold Engine.modifyEntity Engine.withEntities
        dsimp only
        rw [show (entryIndex ref.handle).toNat = ref.index from rfl, hk]
        rfl
      have hchecks : (k.addr ≠ ref.pawn ∨ k.beingDeleted = true ∨ k.handle ≠ ref.handle) ↔
          ¬ e.recognises ref k = true := by
        simp only [Engine.recognises, hindex, Bool.and_eq_true, decide_eq_true_eq]
        grind
      by_cases hother : k.addr ≠ ref.pawn ∨ k.beingDeleted = true ∨ k.handle ≠ ref.handle
      · rw [if_pos hother, if_neg (hchecks.mp hother)]
      · rw [if_neg hother, if_pos (not_not.mp fun h => hother (hchecks.mpr h)), hwrite]
  · rw [if_neg hindex]
    have hnot : ∀ k, e.recognises ref k = false := fun k => by simp [Engine.recognises, hindex]
    cases entities ref.index with
    | none => rfl
    | some k =>
      dsimp only
      rw [hnot k]
      rfl

/-- **Giving back.** The restore gives `FL_BOT` to every recorded pawn it recognises. -/
theorem restoreBotFlagOverride_eq (e : Engine) (records : List PawnRef) :
    restoreBotFlagOverride e records =
      e.withEntities (Lend.give PawnRef.index e.recognises Entity.setBot records e.entities) := by
  have hfold : ∀ (records : List PawnRef) (entities : Nat → Option Entity),
      records.foldl restoreBotFlag (e.withEntities entities) =
        e.withEntities (records.foldl
          (Lend.giveOne PawnRef.index e.recognises Entity.setBot) entities) := by
    intro records
    induction records with
    | nil => exact fun _ => rfl
    | cons ref records ih =>
      intro entities
      rw [List.foldl_cons, restoreBotFlag_eq, ih]
      rfl
  exact hfold records e.entities

/-- What the restore makes of the entity at an index. -/
theorem entities_restoreBotFlagOverride (e : Engine) (records : List PawnRef) (i : Nat) :
    (restoreBotFlagOverride e records).entities i = (e.entities i).map fun k =>
      if ∃ ref ∈ records, ref.index = i ∧ e.recognises ref k = true then k.setBot else k := by
  rw [restoreBotFlagOverride_eq]
  have hmark : ∀ ref k, e.recognises ref k.setBot = e.recognises ref k := fun _ _ => rfl
  exact Lend.give_apply PawnRef.index hmark Entity.setBot_setBot records e.entities i

/-! ## Calls -/

/-- A hooked call of `PackEntities`, or anything else: clients, entities, slots, the mode and
the controllers' pawn handles change. -/
inductive PackCall
  | pre
  | post
  | evolve (v : World) (pawnHandles : Option (Nat → UInt32))

/-- The world as it last was before a hooked call. -/
def PackCall.given (w : World) : PackCall → World
  | .evolve v _ => v
  | _ => w

namespace Packing

/-- One call. -/
def step (p : Packing) : PackCall → Packing
  | .pre => p.packPre
  | .post => p.packPost
  | .evolve v pawnHandles => { p with world := v, pawnHandles }

/-- Calls nest: a POST closes a call that is open. -/
def Nested (p : Packing) (c : PackCall) : Prop := c = .post → 0 < p.packEntitiesDepth

/-- The same inside an outermost call, which stays open. -/
def Inside (p : Packing) (c : PackCall) : Prop := c = .post → 1 < p.packEntitiesDepth

/-- No call is open and nothing is recorded. -/
structure Idle (p : Packing) : Prop where
  depth : p.packEntitiesDepth = 0
  records : p.packedPawns = []

variable {p : Packing}

/-- **Run lemma.** Whenever no call is open nothing is recorded. -/
theorem idle_run {calls : List PackCall} (h : p.Idle) (hn : Runs.Admits step Nested p calls)
    (hdepth : (Runs.exec step p calls).packEntitiesDepth = 0) : (Runs.exec step p calls).Idle := by
  have hinv : 0 ≤ (Runs.exec step p calls).packEntitiesDepth ∧
      ((Runs.exec step p calls).packEntitiesDepth = 0 →
        (Runs.exec step p calls).packedPawns = []) := by
    refine Runs.exec_invariant (I := fun p : Packing => 0 ≤ p.packEntitiesDepth ∧
      (p.packEntitiesDepth = 0 → p.packedPawns = [])) ⟨h.depth.ge, fun _ => h.records⟩
      (fun p c hp hc => ?_) hn
    cases c with
    | pre =>
      refine ⟨?_, fun hzero => ?_⟩
      · change 0 ≤ p.packEntitiesDepth + 1
        omega
      · change p.packEntitiesDepth + 1 = 0 at hzero
        omega
    | post =>
      have hopen := hc rfl
      refine ⟨?_, fun hzero => ?_⟩
      · change 0 ≤ p.packEntitiesDepth - 1
        omega
      · change p.packEntitiesDepth - 1 = 0 at hzero
        simp only [step, packPost]
        rw [if_pos hzero]
        rfl
    | evolve => exact hp
  exact ⟨hdepth, hinv.2 hdepth⟩

/-- A nested PRE only counts. -/
theorem packPre_of_nested (h : 1 ≤ p.packEntitiesDepth) :
    p.packPre = { p with packEntitiesDepth := p.packEntitiesDepth + 1 } := by
  unfold packPre
  dsimp only
  rw [if_neg (by omega)]

/-- So does a nested POST. -/
theorem packPost_of_nested (h : 1 < p.packEntitiesDepth) :
    p.packPost = { p with packEntitiesDepth := p.packEntitiesDepth - 1 } := by
  unfold packPost
  dsimp only
  rw [if_neg (by omega)]

/-- **Run lemma.** Inside an outermost call the records stay as they are, and the world is the
one that was there last before a nested call. -/
theorem inside_run {calls : List PackCall} (hopen : 1 ≤ p.packEntitiesDepth)
    (hn : Runs.Admits step Inside p calls) :
    (Runs.exec step p calls).packedPawns = p.packedPawns ∧
      (Runs.exec step p calls).world = calls.foldl PackCall.given p.world := by
  induction calls generalizing p with
  | nil => exact ⟨rfl, rfl⟩
  | cons c calls ih =>
    obtain ⟨hc, hrest⟩ := hn
    rw [Runs.exec_cons, List.foldl_cons]
    cases c with
    | pre =>
      have hstep : p.step .pre = { p with packEntitiesDepth := p.packEntitiesDepth + 1 } :=
        packPre_of_nested hopen
      rw [hstep] at hrest ⊢
      exact ih (show 1 ≤ p.packEntitiesDepth + 1 by omega) hrest
    | post =>
      have hdeep := hc rfl
      have hstep : p.step .post = { p with packEntitiesDepth := p.packEntitiesDepth - 1 } :=
        packPost_of_nested hdeep
      rw [hstep] at hrest ⊢
      exact ih (show 1 ≤ p.packEntitiesDepth - 1 by omega) hrest
    | evolve v pawnHandles => exact ih hopen hrest

end Packing

/-! ## The outermost call -/

section Outermost

variable {p : Packing}

/-- The outermost PRE in Player mode, as taking `FL_BOT` off the pawns of the managed slots. -/
theorem packPre_of_player (h : p.Idle) (hmode : p.world.isDisguiseEnabled = true) :
    p.packPre = { p.withEngine
        (p.world.engine.withEntities (Lend.take PawnRef.index
          (p.world.engine.managedPawn p.world.manager p.pawnHandles) Entity.hasBot
          Entity.clearBot allSlots p.world.engine.entities).1)
        (Lend.take PawnRef.index
          (p.world.engine.managedPawn p.world.manager p.pawnHandles) Entity.hasBot
          Entity.clearBot allSlots p.world.engine.entities).2 with packEntitiesDepth := 1 } := by
  unfold Packing.packPre
  dsimp only
  rw [if_pos ⟨h.depth, hmode⟩, h.records, applyBotFlagOverride_eq, h.depth]
  rfl

/-- The outermost PRE in Bot mode only opens the call. -/
theorem packPre_of_bot (h : p.Idle) (hmode : p.world.isDisguiseEnabled = false) :
    p.packPre = { p with packEntitiesDepth := 1 } := by
  unfold Packing.packPre
  dsimp only
  rw [if_neg (by simp [hmode]), h.depth]
  rfl

/-- **PRE.** What is recorded, once, and what becomes of the entities: a recorded pawn loses
`FL_BOT` and keeps the rest. -/
structure Hidden (p opened : Packing) : Prop where
  depth : opened.packEntitiesDepth = 1
  world : opened.world = p.world.withEngine opened.world.engine
  agree : Agree id p.world.engine opened.world.engine
  nodup : opened.packedPawns.Nodup
  mem : ∀ ref, ref ∈ opened.packedPawns ↔ p.world.isDisguiseEnabled = true ∧
    (∃ slot, p.world.engine.managedPawn p.world.manager p.pawnHandles slot = some ref) ∧
    ∃ k, p.world.engine.entities ref.index = some k ∧ k.hasBot = true
  recorded : ∀ ref ∈ opened.packedPawns, ∃ k k', p.world.engine.entities ref.index = some k ∧
    opened.world.engine.entities ref.index = some k' ∧ k'.hasBot = false ∧
    k'.identity = k.identity ∧
    ∀ bit, bit < 32 → bit ≠ 4 → k'.flags.getLsbD bit = k.flags.getLsbD bit
  others : ∀ i, (∀ ref ∈ opened.packedPawns, ref.index ≠ i) →
    opened.world.engine.entities i = p.world.engine.entities i
  hidden : p.world.isDisguiseEnabled = true → ∀ slot ref k,
    opened.world.engine.managedPawn opened.world.manager opened.pawnHandles slot = some ref →
    opened.world.engine.entities ref.index = some k → k.hasBot = false

theorem getLsbD_clearBot (k : Entity) {bit : Nat} (hlt : bit < 32) (h : bit ≠ 4) :
    k.clearBot.flags.getLsbD bit = k.flags.getLsbD bit := by
  have hmask : kEntityFlagBot = BitVec.twoPow 32 4 := by decide
  unfold Entity.clearBot
  dsimp only
  rw [hmask, BitVec.getLsbD_and, BitVec.getLsbD_not, BitVec.getLsbD_twoPow]
  simp [Ne.symm h, hlt]

theorem hidden_packPre (h : p.Idle) : Hidden p p.packPre := by
  cases hmode : p.world.isDisguiseEnabled with
  | false =>
    rw [packPre_of_bot h hmode]
    refine ⟨rfl, rfl, .refl _ _, h.records ▸ List.nodup_nil, fun ref => ?_, fun ref href => ?_,
      fun _ _ => rfl, fun hplayer => ?_⟩
    · rw [hmode]
      simp [h.records]
    · rw [h.records] at href
      exact nomatch href
    · exact absurd (hmode.symm.trans hplayer) Bool.false_ne_true
  | true =>
    rw [packPre_of_player h hmode]
    have hplace : ∀ (s t : Slot) ref ref',
        p.world.engine.managedPawn p.world.manager p.pawnHandles s = some ref →
        p.world.engine.managedPawn p.world.manager p.pawnHandles t = some ref' →
        ref.index = ref'.index → ref = ref' := fun _ _ _ _ => managedPawn_inj
    have htaken := Lend.take_spec PawnRef.index Entity.hasBot_clearBot hplace allSlots
      p.world.engine.entities
    generalize Lend.take PawnRef.index (p.world.engine.managedPawn p.world.manager
      p.pawnHandles) Entity.hasBot Entity.clearBot allSlots p.world.engine.entities = s at htaken
    have hmem : ∀ ref, ref ∈ s.2 ↔
        (∃ slot, p.world.engine.managedPawn p.world.manager p.pawnHandles slot = some ref) ∧
        ∃ k, p.world.engine.entities ref.index = some k ∧ k.hasBot = true := by
      intro ref
      rw [htaken.mem ref]
      simp [mem_allSlots]
    have hagree : Agree id p.world.engine (p.world.engine.withEntities s.1) :=
      agree_withEntities fun i => by
        by_cases htook : ∃ r ∈ s.2, r.index = i
        · obtain ⟨r, hr, rfl⟩ := htook
          rw [htaken.of_mem r hr, Option.map_map]
          rfl
        · rw [htaken.of_notMem i fun r hr hi => htook ⟨r, hr, hi⟩]
    refine ⟨rfl, rfl, hagree, htaken.nodup, fun ref => ?_, fun ref href => ?_, htaken.of_notMem,
      fun _ slot ref k href hk => ?_⟩
    · rw [hmode]
      exact (hmem ref).trans (by simp)
    · -- what was taken off is the one bit
      obtain ⟨-, k, hk, -⟩ := (hmem ref).mp href
      refine ⟨k, k.clearBot, hk, ?_, k.hasBot_clearBot, rfl, fun bit => getLsbD_clearBot k⟩
      refine (htaken.of_mem ref href).trans ?_
      rw [hk, Option.map_some]
    · have href : p.world.engine.managedPawn p.world.manager p.pawnHandles slot = some ref :=
        (managedPawn_of_agree hagree slot).symm.trans href
      by_cases hr : ref ∈ s.2
      · obtain ⟨k₀, -, rfl⟩ := Option.map_eq_some_iff.mp ((htaken.of_mem ref hr).symm.trans hk)
        exact Entity.hasBot_clearBot k₀
      · -- a pawn that was not taken had no mark, and none shares its index
        have hsame : s.1 ref.index = p.world.engine.entities ref.index := by
          refine htaken.of_notMem _ fun r hr' hi => hr ?_
          obtain ⟨⟨t, ht⟩, -⟩ := (hmem r).mp hr'
          exact managedPawn_inj ht href hi ▸ hr'
        rw [Bool.eq_false_iff]
        exact fun hbot => hr ((hmem ref).mpr ⟨⟨slot, href⟩, k, hsame.symm.trans hk, hbot⟩)

/-- **POST.** Recorded pawns still alive have `FL_BOT` and their latest other flags, and
every other entity is as it was. -/
structure GivenBack (inside closed : Packing) : Prop where
  idle : closed.Idle
  world : closed.world = inside.world.withEngine closed.world.engine
  agree : Agree id inside.world.engine closed.world.engine
  recorded : ∀ ref ∈ inside.packedPawns, ∀ k, inside.world.engine.AliveUnder ref k →
    ∃ k', closed.world.engine.entities ref.index = some k' ∧ k'.hasBot = true ∧
      k'.identity = k.identity ∧
      ∀ bit, bit ≠ 4 → k'.flags.getLsbD bit = k.flags.getLsbD bit
  others : ∀ i, (∀ ref ∈ inside.packedPawns, ref.index = i →
    ∀ k, ¬ inside.world.engine.AliveUnder ref k) →
      closed.world.engine.entities i = inside.world.engine.entities i

theorem getLsbD_setBot (k : Entity) {bit : Nat} (h : bit ≠ 4) :
    k.setBot.flags.getLsbD bit = k.flags.getLsbD bit := by
  have hmask : kEntityFlagBot = BitVec.twoPow 32 4 := by decide
  unfold Entity.setBot
  dsimp only
  rw [hmask, BitVec.getLsbD_or, BitVec.getLsbD_twoPow]
  simp [Ne.symm h]

theorem givenBack_packPost (h : p.packEntitiesDepth = 1) : GivenBack p p.packPost := by
  have hpost : p.packPost = { p.withEngine (restoreBotFlagOverride p.world.engine
      p.packedPawns) [] with packEntitiesDepth := 0 } := by
    unfold Packing.packPost
    dsimp only
    rw [if_pos (by omega), h]
    rfl
  have hentities := entities_restoreBotFlagOverride p.world.engine p.packedPawns
  have hagree : Agree id p.world.engine (restoreBotFlagOverride p.world.engine p.packedPawns) := by
    rw [restoreBotFlagOverride_eq]
    refine agree_withEntities fun i => ?_
    have hgive := hentities i
    rw [restoreBotFlagOverride_eq] at hgive
    rw [show Lend.give PawnRef.index p.world.engine.recognises Entity.setBot p.packedPawns
      p.world.engine.entities i = _ from hgive, Option.map_map]
    refine Option.map_congr fun k _ => ?_
    dsimp only [Function.comp]
    split <;> rfl
  rw [hpost]
  refine ⟨⟨rfl, rfl⟩, rfl, hagree, fun ref href k hk => ?_, fun i hother => ?_⟩
  · obtain ⟨hcell, hlive⟩ := aliveUnder_iff.mp hk
    refine ⟨k.setBot, ?_, k.hasBot_setBot, rfl, fun bit => getLsbD_setBot k⟩
    refine (hentities ref.index).trans ?_
    rw [hcell, Option.map_some, if_pos ⟨ref, href, rfl, hlive⟩]
  · refine (hentities i).trans ?_
    cases hcell : p.world.engine.entities i with
    | none => rfl
    | some k =>
      rw [Option.map_some, if_neg]
      rintro ⟨ref, href, rfl, hlive⟩
      exact hother ref href rfl k (aliveUnder_iff.mpr ⟨hcell, hlive⟩)

end Outermost

/-- **Packing.** After any nested calls that leave none open, and whatever happens inside the
next outermost call, its PRE takes `FL_BOT`, and nothing else, off exactly the live pawns of
managed slots that have it, recording each once; nested calls leave the world alone; and its
POST gives `FL_BOT` back to those still alive under their recorded handles, touches nothing else
and leaves no record. -/
theorem packing_gives_back (start : Packing) (outer inner : List PackCall) (hstart : start.Idle)
    (houter : Runs.Admits Packing.step Packing.Nested start outer)
    (hclosed : (Runs.exec Packing.step start outer).packEntitiesDepth = 0)
    (hinner : Runs.Admits Packing.step Packing.Inside
      (Runs.exec Packing.step start outer).packPre inner)
    (hlast : (Runs.exec Packing.step (Runs.exec Packing.step start outer).packPre
      inner).packEntitiesDepth = 1) :
    let before := Runs.exec Packing.step start outer
    let opened := before.packPre
    let inside := Runs.exec Packing.step opened inner
    Hidden before opened ∧ inside.packedPawns = opened.packedPawns ∧
      inside.world = inner.foldl PackCall.given opened.world ∧
      GivenBack inside inside.packPost := by
  have hidle : (Runs.exec Packing.step start outer).Idle :=
    Packing.idle_run hstart houter hclosed
  have hhidden := hidden_packPre hidle
  obtain ⟨hrecords, hworld⟩ := Packing.inside_run hhidden.depth.ge hinner
  exact ⟨hhidden, hrecords, hworld, givenBack_packPost hlast⟩

/-- A bot that was adopted in Player mode, whose pawn is entity `5` and has `FL_BOT`. -/
def packServer : Packing :=
  let w := (World.load smallServer).step (botConnects 0)
  let pawn : Entity :=
    { addr := 505, handle := 5, className := "player", beingDeleted := false,
      flags := kEntityFlagBot }
  { world := w.withEngine (w.engine.withEntities
      (Function.update w.engine.entities 5 (some pawn)))
    pawnHandles := some fun _ => 5 }

theorem packing_gives_back_nested :
    GivenBack (Runs.exec Packing.step packServer.packPre [.pre, .post])
      (Runs.exec Packing.step packServer.packPre [.pre, .post]).packPost := by
  have hdepth : (Runs.exec Packing.step packServer.packPre [.pre]).packEntitiesDepth = 2 := by
    decide +kernel
  refine (packing_gives_back packServer [] [.pre, .post] ⟨rfl, rfl⟩ trivial rfl
    ⟨nofun, fun _ => ?_, trivial⟩ (by decide +kernel)).2.2.2
  change 1 < (Runs.exec Packing.step packServer.packPre [.pre]).packEntitiesDepth
  rw [hdepth]
  decide

end BotHider.Model
