import Mathlib.Data.List.Nodup

/-!
# Sweeps over a list of indices

A loop that visits each index once and works on that index's own part of the
state. `v s j` is the part of `s` that belongs to `j`; when the body at `i`
leaves the part of every other `j` alone, a whole sweep does to each part what
the body at its own index does.
-/

namespace Sweep

variable {σ ι β : Type*} {f : σ → ι → σ}

/-- A property kept by the body at every index swept holds after the sweep. -/
theorem foldl_invariant {P : σ → Prop} {l : List ι} {s : σ} (h0 : P s)
    (hf : ∀ s i, i ∈ l → P s → P (f s i)) : P (l.foldl f s) := by
  induction l generalizing s with
  | nil => exact h0
  | cons i l ih =>
    exact ih (hf s i List.mem_cons_self h0) fun s j hj => hf s j (List.mem_cons_of_mem _ hj)

/-- A relation every body keeps, reflexive and transitive, holds across the sweep. -/
theorem foldl_rel {R : σ → σ → Prop} (hrefl : ∀ s, R s s)
    (htrans : ∀ s t u, R s t → R t u → R s u) (hf : ∀ s i, R s (f s i)) (l : List ι) (s : σ) :
    R s (l.foldl f s) :=
  foldl_invariant (P := R s) (hrefl s) fun t i _ ht => htrans s t _ ht (hf t i)

/-- What the body at one index brings about, and every body keeps, holds after a sweep
that visits the index. -/
theorem foldl_established {P : σ → Prop} {l : List ι} {i : ι} (hi : i ∈ l)
    (hset : ∀ s, P (f s i)) (hkeep : ∀ s j, P s → P (f s j)) (s : σ) : P (l.foldl f s) := by
  induction l generalizing s with
  | nil => exact absurd hi List.not_mem_nil
  | cons j l ih =>
    rcases List.mem_cons.mp hi with rfl | hil
    · rw [List.foldl_cons]
      exact foldl_invariant (hset s) fun s j _ => hkeep s j
    · exact ih hil _

variable {p : σ → Prop}

section At

variable {v : σ → β} {j : ι}

/-- A part that no swept index but `j` touches is untouched by a sweep without `j`. -/
theorem foldl_at_of_notMem (hok : ∀ s i, p s → p (f s i))
    (hframe : ∀ s i, p s → i ≠ j → v (f s i) = v s) {l : List ι} (hj : j ∉ l) {s : σ}
    (hs : p s) : v (l.foldl f s) = v s := by
  induction l generalizing s with
  | nil => rfl
  | cons i l ih =>
    rw [List.mem_cons, not_or] at hj
    rw [List.foldl_cons, ih hj.2 (hok s i hs), hframe s i hs (Ne.symm hj.1)]

/-- **Sweep rule at one index.** After a sweep the part of `j` is what the body at `j` makes
of it: in the state the body ran in, the part was still the one it had before the sweep. -/
theorem foldl_at (hok : ∀ s i, p s → p (f s i))
    (hframe : ∀ s i, p s → i ≠ j → v (f s i) = v s) {l : List ι} (hnd : l.Nodup) (hj : j ∈ l)
    {s : σ} (hs : p s) : ∃ s', p s' ∧ v s' = v s ∧ v (l.foldl f s) = v (f s' j) := by
  induction l generalizing s with
  | nil => exact absurd hj List.not_mem_nil
  | cons i l ih =>
    obtain ⟨hi, hnd⟩ := List.nodup_cons.mp hnd
    rcases List.mem_cons.mp hj with rfl | hjl
    · exact ⟨s, hs, rfl, foldl_at_of_notMem hok hframe hi (hok s j hs)⟩
    · have hij : i ≠ j := fun h => hi (h ▸ hjl)
      obtain ⟨s', hs', hview, hres⟩ := ih hnd hjl (hok s i hs)
      exact ⟨s', hs', hview.trans (hframe s i hs hij), hres⟩

end At

variable {v : σ → ι → β}

/-- The part of an index that is not swept is untouched. -/
theorem foldl_view_of_notMem (hok : ∀ s i, p s → p (f s i))
    (hframe : ∀ s i j, p s → i ≠ j → v (f s i) j = v s j) {l : List ι} {j : ι}
    (hj : j ∉ l) {s : σ} (hs : p s) : v (l.foldl f s) j = v s j :=
  foldl_at_of_notMem (v := fun s => v s j) hok (fun s i => hframe s i j) hj hs

/-- **Sweep rule.** After a sweep each swept index's part is what the body at that
index makes of it. -/
theorem foldl_view (hok : ∀ s i, p s → p (f s i))
    (hframe : ∀ s i j, p s → i ≠ j → v (f s i) j = v s j) {l : List ι}
    (hnd : l.Nodup) {j : ι} (hj : j ∈ l) {s : σ} (hs : p s) :
    ∃ s', p s' ∧ v s' j = v s j ∧ v (l.foldl f s) j = v (f s' j) j :=
  foldl_at (v := fun s => v s j) hok (fun s i => hframe s i j) hnd hj hs

end Sweep
