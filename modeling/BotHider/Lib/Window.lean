import Mathlib.Algebra.BigOperators.Fin
import Mathlib.Algebra.BigOperators.Intervals
import Mathlib.Data.Int.ModEq
import Mathlib.Tactic.Abel

/-!
# Sliding windows

A ring of `N` cells keeps the latest `N` samples of a sequence, with a sum that is updated by
the difference each new sample makes and a count of the cells in use.

* `Ring.Exact.push` — the running sum is the sum of the cells, whatever was pushed.
* `sum_fill` — after `n` samples it is the sum of the last `min N n` of them.
-/

namespace Window

variable {N : ℕ} [NeZero N] {α : Type*} [AddCommGroup α]

/-- A ring of samples. -/
structure Ring (N : ℕ) (α : Type*) where
  samples : Fin N → α
  idx : Fin N
  sum : α
  filled : ℕ

namespace Ring

/-- A ring without samples. -/
def empty : Ring N α := ⟨fun _ => 0, 0, 0, 0⟩

/-- A new sample takes the oldest one's cell. -/
def push (r : Ring N α) (x : α) : Ring N α where
  samples := Function.update r.samples r.idx x
  idx := r.idx + 1
  sum := r.sum + (x - r.samples r.idx)
  filled := if r.filled < N then r.filled + 1 else r.filled

/-- The running sum is the sum of the cells. -/
def Exact (r : Ring N α) : Prop := r.sum = ∑ i, r.samples i

theorem exact_empty : (empty : Ring N α).Exact := by
  unfold Exact empty
  simp

theorem Exact.push {r : Ring N α} (h : r.Exact) (x : α) : (r.push x).Exact := by
  unfold Exact Ring.push at *
  dsimp only
  rw [h, Finset.sum_update_of_mem (Finset.mem_univ r.idx),
    ← Finset.add_sum_erase Finset.univ r.samples (Finset.mem_univ r.idx), Finset.sdiff_singleton_eq_erase]
  abel

end Ring

/-! ## A sequence of samples -/

variable {s : ℕ → α} {n : ℕ}

/-- The ring after the samples `s 0`, …, `s (n - 1)`. -/
def fill (s : ℕ → α) : ℕ → Ring N α
  | 0 => .empty
  | n + 1 => (fill s n).push (s n)

theorem exact_fill : (fill s n : Ring N α).Exact := by
  induction n with
  | zero => exact Ring.exact_empty
  | succ n ih => exact ih.push (s n)

theorem filled_fill : (fill s n : Ring N α).filled = min N n := by
  induction n with
  | zero => exact (Nat.min_zero N).symm
  | succ n ih =>
    change (if (fill s n : Ring N α).filled < N then _ else _) = _
    rw [ih]
    split <;> omega

theorem idx_fill : (fill s n : Ring N α).idx = Fin.ofNat N n := by
  induction n with
  | zero => rfl
  | succ n ih =>
    change (fill s n : Ring N α).idx + 1 = _
    rw [ih]
    ext
    simp [Fin.val_add]

/-- The cells from the next one on hold the samples in order, oldest first. -/
theorem samples_fill {i : ℕ} (hi : i < N) : (fill s n : Ring N α).samples (Fin.ofNat N (n + i)) =
    if n + i < N then 0 else s (n + i - N) := by
  induction n generalizing i with
  | zero =>
    rw [if_pos (by omega)]
    rfl
  | succ n ih =>
    change Function.update (fill s n : Ring N α).samples (fill s n : Ring N α).idx (s n) _ = _
    rw [idx_fill]
    by_cases hlast : i + 1 = N
    · -- the cell just written, once around
      have hsame : Fin.ofNat N (n + 1 + i) = Fin.ofNat N n := by
        ext
        simp only [Fin.val_ofNat]
        rw [show n + 1 + i = n + N by omega, Nat.add_mod_right]
      rw [hsame, Function.update_self, if_neg (by omega), show n + 1 + i - N = n by omega]
    · have hne : Fin.ofNat N (n + 1 + i) ≠ Fin.ofNat N n := by
        intro h
        have hval : (n + 1 + i) % N = n % N := congrArg Fin.val h
        have hdvd : N ∣ n + 1 + i - n := (Nat.modEq_iff_dvd' (by omega)).mp hval.symm
        have hle := Nat.le_of_dvd (by omega) hdvd
        omega
      rw [Function.update_of_ne hne, show n + 1 + i = n + (i + 1) by omega, ih (by omega)]

/-- **Window.** The running sum is the sum of the latest samples. -/
theorem sum_fill : (fill s n : Ring N α).sum = ∑ i ∈ Finset.Ico (n - N) n, s i := by
  have hN : 0 < N := Nat.pos_of_ne_zero (NeZero.ne N)
  induction n with
  | zero =>
    rw [Nat.zero_sub, Finset.Ico_self, Finset.sum_empty]
    rfl
  | succ n ih =>
    change (fill s n : Ring N α).sum +
      (s n - (fill s n : Ring N α).samples (fill s n : Ring N α).idx) = _
    have hold := samples_fill (s := s) (n := n) hN
    rw [Nat.add_zero] at hold
    rw [ih, idx_fill, hold, Finset.sum_Ico_succ_top (by omega)]
    by_cases hn : n < N
    · rw [if_pos hn, show n + 1 - N = n - N by omega, sub_zero]
    · rw [if_neg hn, Finset.sum_eq_sum_Ico_succ_bot (show n - N < n by omega),
        show n + 1 - N = n - N + 1 by omega]
      abel

end Window
