import Mathlib.Algebra.Ring.Nat
import Mathlib.Data.List.DropRight

/-!
# Trimmed lists that fit

Items with a size: `within` is the longest beginning of a list whose total stays within a bound,
`trim` drops the blank items at both ends. `normalize` hides items, trims, bounds and trims
again; what it leaves needs none of this any more (`normalize_normalize`).
-/

namespace Fit

variable {α : Type*}

/-! ## Bounding -/

section Bound

variable (size : α → Nat)

/-- The size of a whole list. -/
def total (l : List α) : Nat := (l.map size).sum

@[simp]
theorem total_nil : total size [] = 0 := rfl

@[simp]
theorem total_cons (x : α) (l : List α) : total size (x :: l) = size x + total size l := by
  simp [total]

theorem total_le_of_isPrefix {l m : List α} (h : l <+: m) : total size l ≤ total size m := by
  obtain ⟨rest, rfl⟩ := h
  simp [total]

/-- The items in order for as long as they fit. -/
def within : Nat → List α → List α
  | _, [] => []
  | bound, x :: l => if size x ≤ bound then x :: within (bound - size x) l else []

/-- `m` is the longest beginning of `l` that fits. -/
structure Longest (bound : Nat) (l m : List α) : Prop where
  first : m <+: l
  fits : total size m ≤ bound
  longest : ∀ n, n <+: l → total size n ≤ bound → n <+: m

theorem longest_within (bound : Nat) (l : List α) : Longest size bound l (within size bound l) := by
  induction l generalizing bound with
  | nil => exact ⟨List.nil_prefix, Nat.zero_le _, fun _ hn _ => hn⟩
  | cons x l ih =>
    unfold within
    split
    · rename_i hx
      obtain ⟨hfirst, hfits, hlongest⟩ := ih (bound - size x)
      refine ⟨List.prefix_cons_inj x |>.mpr hfirst, by rw [total_cons]; omega,
        fun n hn htotal => ?_⟩
      cases n with
      | nil => exact List.nil_prefix
      | cons y n =>
        obtain ⟨rfl, htail⟩ := List.cons_prefix_cons.mp hn
        rw [total_cons] at htotal
        exact (List.prefix_cons_inj y).mpr (hlongest n htail (by omega))
    · rename_i hx
      refine ⟨List.nil_prefix, Nat.zero_le _, fun n hn htotal => ?_⟩
      cases n with
      | nil => exact List.nil_prefix
      | cons y n =>
        obtain ⟨rfl, -⟩ := List.cons_prefix_cons.mp hn
        rw [total_cons] at htotal
        omega

/-- A list that fits is left as it is. -/
theorem within_of_total_le {bound : Nat} {l : List α} (h : total size l ≤ bound) :
    within size bound l = l :=
  (longest_within size bound l).first.eq_of_length_le
    ((longest_within size bound l).longest l (List.prefix_refl l) h).length_le

end Bound

/-! ## Trimming -/

section Trim

variable (blank : α → Bool)

/-- The list without the blank items at its ends. -/
def trim (l : List α) : List α := (l.dropWhile blank).rdropWhile blank

/-- Neither end is blank. -/
structure Trimmed (l : List α) : Prop where
  head : ∀ x, l.head? = some x → blank x = false
  last : ∀ x, l.getLast? = some x → blank x = false

variable {blank} {l m : List α}

theorem dropWhile_of_head (h : ∀ x, l.head? = some x → blank x = false) :
    l.dropWhile blank = l := by
  cases l with
  | nil => rfl
  | cons x l => rw [List.dropWhile_cons_of_neg (by simp [h x rfl])]

theorem rdropWhile_of_last (h : ∀ x, l.getLast? = some x → blank x = false) :
    l.rdropWhile blank = l := by
  rw [List.rdropWhile_eq_self_iff]
  intro hl
  rw [h _ (List.getLast?_eq_some_getLast hl)]
  exact Bool.false_ne_true

theorem getLast?_rdropWhile (x : α) (h : (l.rdropWhile blank).getLast? = some x) :
    blank x = false := by
  have hne : l.rdropWhile blank ≠ [] := by
    rintro hnil
    rw [hnil] at h
    cases h
  rw [List.getLast?_eq_some_getLast hne] at h
  rw [← Option.some.inj h]
  simpa using List.rdropWhile_last_not _ _ hne

theorem head?_of_isPrefix (h : m <+: l) {x : α} (hx : m.head? = some x) : l.head? = some x := by
  obtain ⟨rest, rfl⟩ := h
  cases m with
  | nil => cases hx
  | cons y m => exact hx

theorem head?_trim (x : α) (h : (trim blank l).head? = some x) : blank x = false := by
  have hdrop := head?_of_isPrefix (List.rdropWhile_prefix blank _) h
  have hnot := List.head?_dropWhile_not blank l
  rw [hdrop] at hnot
  simpa using hnot

theorem Trimmed.trim_eq (h : Trimmed blank l) : trim blank l = l := by
  rw [trim, dropWhile_of_head h.head, rdropWhile_of_last h.last]

/-- Only blank items: nothing is left. -/
theorem trim_eq_nil (h : ∀ x ∈ l, blank x = true) : trim blank l = [] := by
  rw [trim, List.dropWhile_eq_nil_iff.mpr h, List.rdropWhile_nil]

end Trim

/-! ## Normal lists -/

section Normalize

variable (hidden blank : α → Bool) (size : α → Nat) (bound : Nat)

/-- Hides, trims, bounds and trims what the bound left at the end. -/
def normalize (l : List α) : List α :=
  (within size bound (trim blank (l.filter fun x => !hidden x))).rdropWhile blank

/-- A list that needs no normalizing. -/
structure Normal (l : List α) : Prop where
  shown : ∀ x ∈ l, hidden x = false
  trimmed : Trimmed blank l
  fits : total size l ≤ bound

variable {hidden blank size bound}

theorem mem_of_mem_normalize {l : List α} {x : α}
    (h : x ∈ normalize hidden blank size bound l) : x ∈ l ∧ hidden x = false := by
  have hbounded := (List.rdropWhile_prefix blank _).subset h
  have htrimmed := (longest_within size bound _).first.subset hbounded
  have hdropped := (List.rdropWhile_prefix blank _).subset htrimmed
  have hfiltered := (List.dropWhile_suffix blank).subset hdropped
  simpa using List.mem_filter.mp hfiltered

theorem normal_normalize (l : List α) :
    Normal hidden blank size bound (normalize hidden blank size bound l) := by
  have hlongest := longest_within size bound (trim blank (l.filter fun x => !hidden x))
  have hend : normalize hidden blank size bound l <+: _ := List.rdropWhile_prefix blank _
  exact ⟨fun x hx => (mem_of_mem_normalize hx).2,
    ⟨fun x hx => head?_trim x (head?_of_isPrefix (hend.trans hlongest.first) hx),
      fun x hx => getLast?_rdropWhile x hx⟩,
    (total_le_of_isPrefix size hend).trans hlongest.fits⟩

theorem Normal.normalize_eq {l : List α} (h : Normal hidden blank size bound l) :
    normalize hidden blank size bound l = l := by
  have hfilter : l.filter (fun x => !hidden x) = l :=
    List.filter_eq_self.mpr fun x hx => by rw [h.shown x hx]; rfl
  rw [normalize, hfilter, h.trimmed.trim_eq, within_of_total_le size h.fits,
    rdropWhile_of_last h.trimmed.last]

/-- Nothing is left of items that are blank where they are not hidden. -/
theorem normalize_eq_nil {l : List α} (h : ∀ x ∈ l, hidden x = false → blank x = true) :
    normalize hidden blank size bound l = [] := by
  have htrim : trim blank (l.filter fun x => !hidden x) = [] := by
    refine trim_eq_nil fun x hx => ?_
    obtain ⟨hmem, hshown⟩ := List.mem_filter.mp hx
    exact h x hmem (by simpa using hshown)
  rw [normalize, htrim, within, List.rdropWhile_nil]

/-- **Idempotence.** -/
theorem normalize_normalize (l : List α) :
    normalize hidden blank size bound (normalize hidden blank size bound l) =
      normalize hidden blank size bound l :=
  (normal_normalize l).normalize_eq

end Normalize

end Fit
