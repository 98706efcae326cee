import Mathlib.Data.BitVec
import Mathlib.Dynamics.PeriodicPts.Lemmas

/-!
# Shift-xor steps and their orbits

A word xored with a shifted copy of itself still determines the word: `xorShiftRight_injective`
reads the bits from the top down, `xorShiftLeft_injective` from the bottom up. On a finite
type an injective step is a bijection and its orbits are cycles (`exists_period`), so a state
other than a fixed one never gets there (`iterate_ne_of_fixed`).
-/

namespace Xorshift

/-! ## One shift -/

variable {n k : Nat}

theorem xorShiftRight_injective (hk : 0 < k) :
    Function.Injective fun x : BitVec n => x ^^^ (x >>> k) := by
  intro x y h
  have hbit : ∀ i, (x.getLsbD i ^^ x.getLsbD (k + i)) = (y.getLsbD i ^^ y.getLsbD (k + i)) := by
    intro i
    have hi := congrArg (·.getLsbD i) h
    simpa only [BitVec.getLsbD_xor, BitVec.getLsbD_ushiftRight] using hi
  -- downwards: the bits above `i` are known to agree
  have hall : ∀ d i, n ≤ i + d → x.getLsbD i = y.getLsbD i := by
    intro d
    induction d with
    | zero =>
      intro i hi
      rw [BitVec.getLsbD_of_ge x i hi, BitVec.getLsbD_of_ge y i hi]
    | succ d ih =>
      intro i hi
      have hi' := hbit i
      rw [ih (k + i) (by omega)] at hi'
      exact Bool.xor_left_inj.mp hi'
  exact BitVec.eq_of_getLsbD_eq fun i _ => hall n i (Nat.le_add_left n i)

theorem xorShiftLeft_injective (hk : 0 < k) :
    Function.Injective fun x : BitVec n => x ^^^ (x <<< k) := by
  intro x y h
  refine BitVec.eq_of_getLsbD_eq fun i => ?_
  -- upwards: the bits below `i` are known to agree
  induction i using Nat.strongRecOn with
  | ind i ih =>
    intro hi
    have hbit := congrArg (·.getLsbD i) h
    simp only [BitVec.getLsbD_xor, BitVec.getLsbD_shiftLeft] at hbit
    by_cases hlow : i < k
    · simpa [hlow] using hbit
    · rw [ih (i - k) (by omega) (by omega)] at hbit
      exact Bool.xor_left_inj.mp hbit

/-! ## Orbits -/

variable {α : Type*} {f : α → α}

/-- The orbits of an injective step on a finite type are cycles. -/
theorem exists_period [Finite α] (hf : Function.Injective f) (x : α) :
    ∃ p > 0, ∀ m, f^[m + p] x = f^[m] x := by
  obtain ⟨p, hp, hx⟩ := Function.mem_periodicPts.mp (hf.mem_periodicPts x)
  refine ⟨p, hp, fun m => ?_⟩
  rw [Function.iterate_add_apply, hx]

/-- An injective step leads to a fixed state from that state only. -/
theorem iterate_ne_of_fixed (hf : Function.Injective f) {z x : α} (hz : f z = z) (hx : x ≠ z)
    (m : Nat) : f^[m] x ≠ z := by
  intro h
  refine hx (hf.iterate m ?_)
  rw [h, Function.iterate_fixed hz]

end Xorshift
