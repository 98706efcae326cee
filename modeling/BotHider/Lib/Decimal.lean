import Mathlib.Data.List.Basic

/-!
# Canonical decimal numerals

A canonical numeral is a nonempty run of decimal digits that does not start with `0`. It
is the decimal representation of its value (`toDigits_ofDigitChars`), and the representation
of a nonzero number is canonical (`head_toDigits`), so reading numerals is injective.
-/

namespace Decimal

/-- A digit is the character of its value. -/
theorem digitChar_of_isDigit {c : Char} (h : c.isDigit = true) :
    c.toNat - '0'.toNat < 10 ∧ (c.toNat - '0'.toNat).digitChar = c := by
  have hrange : 48 ≤ c.toNat ∧ c.toNat ≤ 57 := by
    simpa [Char.isDigit, UInt32.le_iff_toNat_le] using h
  have hzero : '0'.toNat = 48 := rfl
  have hlt : c.toNat - '0'.toNat < 10 := by omega
  refine ⟨hlt, Char.toNat_inj.mp ?_⟩
  rw [Nat.toNat_digitChar_of_lt_ten hlt]
  omega

/-- Reading digits on top of a nonzero value appends them to its representation. -/
theorem toDigits_ofDigitChars_append {cs : List Char} {n : Nat} (hn : 0 < n)
    (hdigits : ∀ c ∈ cs, c.isDigit = true) :
    Nat.toDigits 10 (Nat.ofDigitChars 10 cs n) = Nat.toDigits 10 n ++ cs := by
  induction cs generalizing n with
  | nil => rw [Nat.ofDigitChars_nil, List.append_nil]
  | cons c cs ih =>
    obtain ⟨hc, hcs⟩ := List.forall_mem_cons.mp hdigits
    obtain ⟨hlt, hchar⟩ := digitChar_of_isDigit hc
    have hstep : Nat.toDigits 10 (10 * n + (c.toNat - '0'.toNat)) = Nat.toDigits 10 n ++ [c] := by
      rw [← Nat.toDigits_append_toDigits (by decide) hn hlt, Nat.toDigits_of_lt_base hlt, hchar]
    rw [Nat.ofDigitChars_cons, ih (by omega) hcs, hstep, List.append_assoc, List.singleton_append]

/-- **Canonical numerals.** A canonical numeral is the representation of its value. -/
theorem toDigits_ofDigitChars {c : Char} {cs : List Char} (hc : c ≠ '0')
    (hdigits : ∀ d ∈ c :: cs, d.isDigit = true) :
    Nat.toDigits 10 (Nat.ofDigitChars 10 (c :: cs) 0) = c :: cs := by
  obtain ⟨hdigit, hcs⟩ := List.forall_mem_cons.mp hdigits
  obtain ⟨hlt, hchar⟩ := digitChar_of_isDigit hdigit
  have hpos : 0 < c.toNat - '0'.toNat := by
    refine Nat.pos_of_ne_zero fun hz => hc ?_
    rw [← hchar, hz]
    rfl
  rw [Nat.ofDigitChars_cons, Nat.mul_zero, Nat.zero_add, toDigits_ofDigitChars_append hpos hcs,
    Nat.toDigits_of_lt_base hlt, hchar]
  rfl

/-- The representation of a nonzero number does not start with `0`. -/
theorem head_toDigits {n : Nat} (hn : n ≠ 0) : (Nat.toDigits 10 n).head? ≠ some '0' := by
  induction n using Nat.strongRecOn with
  | ind n ih =>
    rcases Nat.lt_or_ge n 10 with hlt | hge
    · rw [Nat.toDigits_of_lt_base hlt]
      intro h
      have hchar : n.digitChar = '0' := Option.some.inj h
      have := congrArg Char.toNat hchar
      rw [Nat.toNat_digitChar_of_lt_ten hlt] at this
      have hzero : '0'.toNat = 48 := rfl
      omega
    · rw [Nat.toDigits_of_base_le (by decide) hge, List.head?_append_of_ne_nil _ Nat.toDigits_ne_nil]
      exact ih (n / 10) (by omega) (by omega)

/-- Different numbers have different representations. -/
theorem toString_injective {m n : Nat} (h : toString m = toString n) : m = n := by
  have hdigits : Nat.toDigits 10 m = Nat.toDigits 10 n := by
    rw [← Nat.toList_repr, ← Nat.toList_repr]
    exact congrArg String.toList h
  rw [← Nat.ofDigitChars_ten_toDigits (n := m), hdigits, Nat.ofDigitChars_ten_toDigits]

end Decimal
