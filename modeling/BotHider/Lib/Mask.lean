import Mathlib.Data.BitVec

/-!
# Masked merges of machine words

Undoing a change to some bits of a word another party may have written to in
the meantime: the bits that changed (`old ^^^ new`) go back to their old value
and every other bit keeps the latest one (`merge`).
-/

namespace Mask

variable {w : Nat}

/-- The bits of `mask` from `old`, every other bit from `cur`. -/
def merge (cur old mask : BitVec w) : BitVec w := (cur &&& ~~~mask) ||| (old &&& mask)

theorem getLsbD_merge (cur old mask : BitVec w) {i : Nat} (hi : i < w) :
    (merge cur old mask).getLsbD i =
      if mask.getLsbD i then old.getLsbD i else cur.getLsbD i := by
  rw [merge, BitVec.getLsbD_or, BitVec.getLsbD_and, BitVec.getLsbD_and, BitVec.getLsbD_not]
  cases mask.getLsbD i <;> simp [hi]

/-- An empty mask brings nothing back. -/
theorem merge_zero (cur old : BitVec w) : merge cur old 0 = cur := by
  simp [merge]

/-- A bit outside the mask keeps its latest value. -/
theorem getLsbD_merge_of_unmasked {cur old mask : BitVec w} {i : Nat} (hi : i < w)
    (hm : mask.getLsbD i = false) : (merge cur old mask).getLsbD i = cur.getLsbD i := by
  rw [getLsbD_merge _ _ _ hi, hm]
  rfl

/-- A bit is in the mask of a change exactly when the change flipped it. -/
theorem getLsbD_changed {old new : BitVec w} {i : Nat} :
    (old ^^^ new).getLsbD i = true ↔ old.getLsbD i ≠ new.getLsbD i := by
  rw [BitVec.getLsbD_xor]
  cases old.getLsbD i <;> cases new.getLsbD i <;> decide

/-! ## Undoing a change -/

/-- A bit that still is as the change left it goes back to what it was. -/
theorem getLsbD_merge_of_kept {cur old new : BitVec w} {i : Nat} (hi : i < w)
    (hkept : cur.getLsbD i = new.getLsbD i) :
    (merge cur old (old ^^^ new)).getLsbD i = old.getLsbD i := by
  rw [getLsbD_merge _ _ _ hi, BitVec.getLsbD_xor, hkept]
  cases old.getLsbD i <;> cases new.getLsbD i <;> rfl

/-- A bit the change left alone keeps its latest value. -/
theorem getLsbD_merge_of_same {cur old new : BitVec w} {i : Nat} (hi : i < w)
    (hsame : new.getLsbD i = old.getLsbD i) :
    (merge cur old (old ^^^ new)).getLsbD i = cur.getLsbD i := by
  refine getLsbD_merge_of_unmasked hi ?_
  rw [BitVec.getLsbD_xor, hsame, Bool.xor_self]

/-! ## What neither touches -/

/-- The mask of a change has no bit that the change keeps. -/
theorem changed_and_not {old new touched : BitVec w}
    (h : new &&& ~~~touched = old &&& ~~~touched) : (old ^^^ new) &&& ~~~touched = 0 := by
  refine BitVec.eq_of_getLsbD_eq fun i hi => ?_
  have hbit := congrArg (BitVec.getLsbD · i) h
  simp only [BitVec.getLsbD_and, BitVec.getLsbD_xor] at hbit ⊢
  rw [Bool.and_xor_distrib_right, hbit, Bool.xor_self]
  exact BitVec.getLsbD_zero.symm

/-- A merge keeps the latest value of every bit its mask has not. -/
theorem merge_and_not {mask touched : BitVec w} (h : mask &&& ~~~touched = 0)
    (cur old : BitVec w) : merge cur old mask &&& ~~~touched = cur &&& ~~~touched := by
  refine BitVec.eq_of_getLsbD_eq fun i hi => ?_
  have hbit : (mask.getLsbD i && (~~~touched).getLsbD i) = false := by
    rw [← BitVec.getLsbD_and, h]
    exact BitVec.getLsbD_zero
  rw [BitVec.getLsbD_and, getLsbD_merge _ _ _ hi, BitVec.getLsbD_and]
  cases hm : mask.getLsbD i with
  | false => rfl
  | true =>
    rw [hm, Bool.true_and] at hbit
    rw [hbit, Bool.and_false, Bool.and_false]

end Mask
