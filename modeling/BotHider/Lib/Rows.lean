import Mathlib.Data.List.Basic
import Mathlib.Data.List.Forall2
import Mathlib.Data.List.Sort

/-!
# Tables with numbered rows

A table is a list whose rows keep their numbers: rows are added at the end and changed in
place.

* `Every` — each row meets a condition on its number and its content.
* `field` — what a row has in a field that no change touches; it stays once the row is there.
* `forall₂_modify`, `forall₂_insertionSort` — two tables related row by row stay so.
* `lookup_of_perm` — what a key finds does not depend on the order of the rows.
-/

namespace Rows

variable {α κ : Type*} {P Q : ℕ → α → Prop} {l : List α} {n : ℕ} {a : α} {f : α → α}

/-! ## Conditions on the rows -/

/-- Each row meets the condition. -/
def Every (P : ℕ → α → Prop) (l : List α) : Prop := ∀ i a, l[i]? = some a → P i a

theorem every_nil : Every P [] := fun _ _ h => nomatch h

theorem Every.mono (h : Every P l) (hle : ∀ i a, P i a → Q i a) : Every Q l :=
  fun i a ha => hle i a (h i a ha)

/-- A new row has to meet the condition of the next number. -/
theorem Every.snoc (h : Every P l) (ha : P l.length a) : Every P (l ++ [a]) := by
  intro i b hb
  rw [List.getElem?_append] at hb
  split at hb
  · exact h i b hb
  · obtain ⟨hi, rfl⟩ := List.getElem?_eq_some_iff.mp hb
    have hlast : i = l.length := by
      rw [List.length_singleton] at hi
      omega
    subst hlast
    simpa using ha

/-- After a change of one row the others have to meet a new condition as they are. -/
theorem Every.modify_of (h : Every P l) (hother : ∀ i a, i ≠ n → P i a → Q i a)
    (hf : ∀ a, l[n]? = some a → P n a → Q n (f a)) : Every Q (l.modify n f) := by
  intro i b hb
  rw [List.getElem?_modify] at hb
  obtain ⟨a, ha, rfl⟩ := Option.map_eq_some_iff.mp hb
  split
  · rename_i hn
    subst hn
    exact hf a ha (h _ a ha)
  · rename_i hn
    exact hother i a (Ne.symm hn) (h i a ha)

/-- A changed row has to meet its condition again. -/
theorem Every.modify (h : Every P l) (hf : ∀ a, l[n]? = some a → P n a → P n (f a)) :
    Every P (l.modify n f) :=
  h.modify_of (fun _ _ _ ha => ha) hf

/-- A change that brings a row into a class adds one to it. -/
theorem countP_modify {p : α → Bool} (ha : l[n]? = some a) (hout : p a = false)
    (hin : p (f a) = true) : (l.modify n f).countP p = l.countP p + 1 := by
  induction l generalizing n with
  | nil => cases ha
  | cons b l ih =>
    cases n with
    | zero =>
      obtain rfl := Option.some.inj ha
      rw [List.modify_zero_cons, List.countP_cons_of_pos hin,
        List.countP_cons_of_neg (by simp [hout])]
    | succ n =>
      rw [List.modify_succ_cons, List.countP_cons, List.countP_cons, ih ha]
      omega

/-- A change that takes a row out of a class takes one from it. -/
theorem countP_modify_out {p : α → Bool} (ha : l[n]? = some a) (hin : p a = true)
    (hout : p (f a) = false) : (l.modify n f).countP p + 1 = l.countP p := by
  induction l generalizing n with
  | nil => cases ha
  | cons b l ih =>
    cases n with
    | zero =>
      obtain rfl := Option.some.inj ha
      rw [List.modify_zero_cons, List.countP_cons_of_pos hin,
        List.countP_cons_of_neg (by simp [hout])]
    | succ n =>
      rw [List.modify_succ_cons, List.countP_cons, List.countP_cons, ← ih ha]
      omega

/-- A change that keeps every row in its class. -/
theorem countP_modify_of_eq {p : α → Bool} (hf : ∀ a, p (f a) = p a) :
    (l.modify n f).countP p = l.countP p := by
  induction l generalizing n with
  | nil => simp
  | cons b l ih =>
    cases n with
    | zero => rw [List.modify_zero_cons, List.countP_cons, List.countP_cons, hf]
    | succ n => rw [List.modify_succ_cons, List.countP_cons, List.countP_cons, ih]

/-- A class of at most one row. -/
theorem eq_of_countP_le_one {p : α → Bool} {m : ℕ} {b : α} (h : l.countP p ≤ 1)
    (ha : l[n]? = some a) (hpa : p a = true) (hb : l[m]? = some b) (hpb : p b = true) : n = m := by
  induction l generalizing n m with
  | nil => cases ha
  | cons c l ih =>
    -- a second row of the class behind a first one would make two
    have hnone : p c = true → ∀ {k : ℕ} {d : α}, l[k]? = some d → p d = false := by
      intro hc k d hd
      rw [List.countP_cons_of_pos hc] at h
      have hzero : l.countP p = 0 := by omega
      exact Bool.eq_false_iff.mpr (List.countP_eq_zero.mp hzero d (List.mem_of_getElem? hd))
    cases n with
    | zero =>
      obtain rfl := Option.some.inj ha
      cases m with
      | zero => rfl
      | succ m => exact absurd (hnone hpa hb) (by simp [hpb])
    | succ n =>
      cases m with
      | zero =>
        obtain rfl := Option.some.inj hb
        exact absurd (hnone hpb ha) (by simp [hpa])
      | succ m =>
        refine congrArg (· + 1) (ih ?_ ha hb)
        rw [List.countP_cons] at h
        omega

/-- A change of the row added last. -/
theorem modify_snoc (l : List α) (a : α) (f : α → α) :
    (l ++ [a]).modify l.length f = l ++ [f a] := by
  induction l with
  | nil => rfl
  | cons b l ih => rw [List.cons_append, List.length_cons, List.modify_succ_cons, ih]; rfl

/-! ## A field that stays -/

variable (key : α → κ)

/-- The field of the row with a number. -/
def field (l : List α) (i : ℕ) : Option κ := l[i]?.map key

variable {key} {i : ℕ} {k : κ}

theorem field_of_row (h : l[i]? = some a) : field key l i = some (key a) :=
  congrArg (Option.map key) h

theorem field_snoc (h : field key l i = some k) : field key (l ++ [a]) i = some k := by
  obtain ⟨b, hb, rfl⟩ := Option.map_eq_some_iff.mp h
  refine field_of_row ?_
  rw [List.getElem?_append_left (List.getElem?_eq_some_iff.mp hb).1]
  exact hb

theorem field_snoc_last : field key (l ++ [a]) l.length = some (key a) :=
  field_of_row List.getElem?_concat_length

theorem field_modify (hf : ∀ a, key (f a) = key a) :
    field key (l.modify n f) i = field key l i := by
  unfold field
  rw [List.getElem?_modify]
  cases l[i]? with
  | none => rfl
  | some a =>
    refine congrArg some ?_
    split
    · exact hf a
    · rfl

theorem map_modify (hf : ∀ a, key (f a) = key a) : (l.modify n f).map key = l.map key := by
  refine List.ext_getElem? fun i => ?_
  rw [List.getElem?_map, List.getElem?_map]
  exact field_modify hf

/-! ## Two tables row by row -/

section Forall₂

variable {β : Type*} {R : α → β → Prop} {l' : List β} {g : β → β}

/-- A change of one row of the second table that the first table's row allows. -/
theorem forall₂_modify (h : List.Forall₂ R l l')
    (hg : ∀ a b, l[n]? = some a → R a b → R a (g b)) : List.Forall₂ R l (l'.modify n g) := by
  induction h generalizing n with
  | nil =>
    rw [List.modify_nil]
    exact .nil
  | @cons a b l l' hab hrest ih =>
    cases n with
    | zero => exact .cons (hg a b rfl hab) hrest
    | succ n => exact .cons hab (ih fun a b ha => hg a b ha)

/-- Sorting by a key that related rows share. -/
theorem forall₂_insertionSort {key' : β → κ} (le : κ → κ → Prop) [DecidableRel le]
    (h : List.Forall₂ R l l') (hkey : ∀ a b, R a b → key' b = key a) :
    List.Forall₂ R (l.insertionSort fun a a' => le (key a) (key a'))
      (l'.insertionSort fun b b' => le (key' b) (key' b')) := by
  -- both are the sorted list of pairs, seen from either side
  have hzip := List.forall₂_iff_zip.mp h
  have hkeys : ∀ p ∈ l.zip l', key' p.2 = key p.1 := fun p hp => hkey p.1 p.2 (hzip.2 hp)
  let sorted := (l.zip l').insertionSort fun p q => le (key p.1) (key q.1)
  have hfst : sorted.map Prod.fst = l.insertionSort fun a a' => le (key a) (key a') := by
    have hsort := List.map_insertionSort (fun p q : α × β => le (key p.1) (key q.1))
      (fun a a' => le (key a) (key a')) Prod.fst (l.zip l') fun _ _ _ _ => Iff.rfl
    rwa [List.map_fst_zip (Nat.le_of_eq hzip.1)] at hsort
  have hsnd : sorted.map Prod.snd = l'.insertionSort fun b b' => le (key' b) (key' b') := by
    have hsort := List.map_insertionSort (fun p q : α × β => le (key p.1) (key q.1))
      (fun b b' => le (key' b) (key' b')) Prod.snd (l.zip l') fun p hp q hq => by
        rw [hkeys p hp, hkeys q hq]
    rwa [List.map_snd_zip (Nat.le_of_eq hzip.1.symm)] at hsort
  rw [← hfst, ← hsnd, List.forall₂_map_left_iff, List.forall₂_map_right_iff]
  refine List.forall₂_same.mpr fun p hp => ?_
  exact hzip.2 ((List.mem_insertionSort _).mp hp)

end Forall₂

/-! ## Rows by their keys -/

/-- Where no two rows have one key, what a key finds does not depend on their order. -/
theorem lookup_of_perm {β : Type*} [BEq κ] [LawfulBEq κ] {l l' : List (κ × β)}
    (hp : l.Perm l') (h : (l.map Prod.fst).Nodup) (k : κ) : l.lookup k = l'.lookup k := by
  induction hp with
  | nil => rfl
  | cons a _ ih =>
    rw [List.map_cons, List.nodup_cons] at h
    rw [List.lookup_cons, List.lookup_cons, ih h.2]
  | swap a b l =>
    obtain ⟨ka, va⟩ := a
    obtain ⟨kb, vb⟩ := b
    have hne : kb ≠ ka := fun heq => (List.nodup_cons.mp h).1 (heq ▸ List.mem_cons_self)
    rw [List.lookup_cons, List.lookup_cons, List.lookup_cons, List.lookup_cons]
    by_cases ha : k = ka
    · subst ha
      rw [beq_false_of_ne (Ne.symm hne)]
    · rw [beq_false_of_ne ha]
  | trans hp _ ih ih' => exact (ih h).trans (ih' ((hp.map Prod.fst).nodup_iff.mp h))

end Rows
