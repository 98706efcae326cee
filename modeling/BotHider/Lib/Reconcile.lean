import Mathlib.Logic.Function.Basic
import Mathlib.Logic.Relation

/-!
# Reconciling a keyed store with what its writers want

Writers `ι` put data under keys `κ` of a shared store. Each writer remembers the one
key it still has to clean up. It may take its own entry back, and it may write the key it
wants once it has no other to clean up; whoever was to clean that key up before no longer
is.

* `Owned` — no key has two owners, and every key that holds data has one. Both moves
  keep it.
* `Settled` — a writer owns just what it wants, and its key holds its data. The moves of a
  writer that wants another key leave this alone.
* `store_ne_empty_iff` — once every writer is settled, the store is what is wanted.
-/

namespace Reconcile

variable {ι κ δ : Type*} [DecidableEq ι] [DecidableEq κ]

/-- The data under each key, and the key each writer has to clean up. -/
structure State (ι κ δ : Type*) where
  store : κ → δ
  owns : ι → Option κ

namespace State

variable (s : State ι κ δ)

/-- The writer empties the key it owns. -/
def clear (empty : δ) (i : ι) (k : κ) : State ι κ δ where
  store := Function.update s.store k empty
  owns := Function.update s.owns i none

/-- The writer puts data under a key and becomes its owner. -/
def write (i : ι) (k : κ) (d : δ) : State ι κ δ where
  store := Function.update s.store k d
  owns j := if j = i then some k else if s.owns j = some k then none else s.owns j

/-- What a writer that wants its data under a key may do. -/
inductive Move (empty : δ) (i : ι) (want : Option κ) (d : δ) :
    State ι κ δ → State ι κ δ → Prop
  | clear (s : State ι κ δ) (k : κ) (owned : s.owns i = some k) :
      Move empty i want d s (s.clear empty i k)
  | write (s : State ι κ δ) (k : κ) (wanted : want = some k)
      (free : s.owns i = none ∨ s.owns i = some k) : Move empty i want d s (s.write i k d)

/-- Any number of such moves. -/
abbrev Moves (empty : δ) (i : ι) (want : Option κ) (d : δ) :
    State ι κ δ → State ι κ δ → Prop :=
  Relation.ReflTransGen (Move empty i want d)

/-- No key has two owners. -/
def Exclusive : Prop := ∀ i j k, s.owns i = some k → s.owns j = some k → i = j

/-- No key has two owners, and no data is without one. -/
structure Owned (empty : δ) : Prop where
  exclusive : s.Exclusive
  covered : ∀ k, s.store k ≠ empty → ∃ i, s.owns i = some k

/-- The writer owns just what it wants, and its key holds its data. -/
structure Settled (i : ι) (want : Option κ) (d : δ) : Prop where
  owns : s.owns i = want
  store : ∀ k, want = some k → s.store k = d

variable {s} {s' : State ι κ δ} {empty d d' : δ} {i j : ι} {k l : κ} {want want' : Option κ}

/-! ## Ownership -/

theorem owns_of_clear (h : (s.clear empty i k).owns j = some l) : j ≠ i ∧ s.owns j = some l := by
  unfold clear at h
  rcases eq_or_ne j i with rfl | hj
  · simp at h
  · exact ⟨hj, by simpa [hj] using h⟩

theorem owns_of_write (h : (s.write i k d).owns j = some l) :
    (j = i ∧ l = k) ∨ (j ≠ i ∧ l ≠ k ∧ s.owns j = some l) := by
  change (if j = i then some k else if s.owns j = some k then none else s.owns j) = some l at h
  split at h
  · rename_i hj
    exact Or.inl ⟨hj, (Option.some.inj h).symm⟩
  · rename_i hj
    split at h
    · cases h
    · rename_i hk
      exact Or.inr ⟨hj, fun hl => hk (hl ▸ h), h⟩

theorem Exclusive.move (h : s.Exclusive) (hm : Move empty i want d s s') : s'.Exclusive := by
  cases hm with
  | clear k hi => exact fun a b l ha hb => h a b l (owns_of_clear ha).2 (owns_of_clear hb).2
  | write k hw hi =>
    intro a b l ha hb
    rcases owns_of_write ha with ⟨rfl, rfl⟩ | ⟨-, hl, ha⟩
    · rcases owns_of_write hb with ⟨rfl, -⟩ | ⟨-, hl, -⟩
      · rfl
      · exact absurd rfl hl
    · rcases owns_of_write hb with ⟨-, rfl⟩ | ⟨-, -, hb⟩
      · exact absurd rfl hl
      · exact h a b l ha hb

/-- Emptying one's own key leaves no data without an owner, and neither does writing, as
the writer has no other key to clean up. -/
theorem Owned.move (h : s.Owned empty) (hm : Move empty i want d s s') : s'.Owned empty := by
  refine ⟨h.exclusive.move hm, fun l hl => ?_⟩
  cases hm with
  | clear k hi =>
    have hlk : l ≠ k := by
      rintro rfl
      exact hl (Function.update_self ..)
    obtain ⟨j, hj⟩ := h.covered l fun he => hl ((Function.update_of_ne hlk ..).trans he)
    have hji : j ≠ i := by
      rintro rfl
      rw [hi] at hj
      exact hlk (Option.some.inj hj).symm
    exact ⟨j, (Function.update_of_ne hji ..).trans hj⟩
  | write k hw hi =>
    rcases eq_or_ne l k with rfl | hlk
    · exact ⟨i, if_pos rfl⟩
    · obtain ⟨j, hj⟩ := h.covered l fun he => hl ((Function.update_of_ne hlk ..).trans he)
      have hji : j ≠ i := by
        rintro rfl
        rcases hi with hi | hi
        · rw [hi] at hj
          cases hj
        · rw [hi] at hj
          exact hlk (Option.some.inj hj).symm
      have hjk : s.owns j ≠ some k := fun hk => hlk (Option.some.inj (hj.symm.trans hk))
      exact ⟨j, ((if_neg hji).trans (if_neg hjk)).trans hj⟩

/-! ## Settled writers -/

/-- The moves of another writer, which wants another key, unsettle nobody. -/
theorem Settled.move (h : s.Settled j want' d') (he : s.Exclusive)
    (hm : Move empty i want d s s') (hij : j ≠ i) (hne : ∀ k, want = some k → want' ≠ some k) :
    s'.Settled j want' d' := by
  cases hm with
  | clear k hi =>
    refine ⟨(Function.update_of_ne hij ..).trans h.owns, fun l hl => ?_⟩
    have hlk : l ≠ k := by
      rintro rfl
      exact hij (he j i l (h.owns.trans hl) hi)
    exact (Function.update_of_ne hlk ..).trans (h.store l hl)
  | write k hw hi =>
    have hjk : s.owns j ≠ some k := fun hk => hne k hw (h.owns.symm.trans hk)
    refine ⟨((if_neg hij).trans (if_neg hjk)).trans h.owns, fun l hl => ?_⟩
    have hlk : l ≠ k := by
      rintro rfl
      exact hne l hw hl
    exact (Function.update_of_ne hlk ..).trans (h.store l hl)

theorem settled_write (s : State ι κ δ) (i : ι) (k : κ) (d : δ) :
    (s.write i k d).Settled i (some k) d := by
  refine ⟨if_pos rfl, fun l hl => ?_⟩
  rw [← Option.some.inj hl]
  exact Function.update_self ..

omit [DecidableEq ι] [DecidableEq κ] in
/-- **The store is what is wanted.** When every writer is settled, a key holds data exactly
when somebody wants it to. -/
theorem store_ne_empty_iff (h : s.Owned empty) {want : ι → Option κ} {data : ι → δ}
    (hs : ∀ i, s.Settled i (want i) (data i)) (hne : ∀ i k, want i = some k → data i ≠ empty)
    (k : κ) : s.store k ≠ empty ↔ ∃ i, want i = some k := by
  constructor
  · intro hk
    obtain ⟨i, hi⟩ := h.covered k hk
    exact ⟨i, (hs i).owns.symm.trans hi⟩
  · rintro ⟨i, hi⟩
    rw [(hs i).store k hi]
    exact hne i k hi

/-! ## Several moves -/

theorem Exclusive.moves (h : s.Exclusive) (hm : Moves empty i want d s s') : s'.Exclusive := by
  induction hm with
  | refl => exact h
  | tail _ hm ih => exact ih.move hm

theorem Owned.moves (h : s.Owned empty) (hm : Moves empty i want d s s') : s'.Owned empty := by
  induction hm with
  | refl => exact h
  | tail _ hm ih => exact ih.move hm

theorem Settled.moves (h : s.Settled j want' d') (he : s.Exclusive)
    (hm : Moves empty i want d s s') (hij : j ≠ i)
    (hne : ∀ k, want = some k → want' ≠ some k) : s'.Settled j want' d' := by
  induction hm with
  | refl => exact h
  | tail hpath hm ih => exact ih.move (he.moves hpath) hm hij hne

end State

end Reconcile
