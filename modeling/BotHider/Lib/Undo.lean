import Mathlib.Data.List.Basic

/-!
# Nested temporary overrides

Marks `M` are normally off. A scope that needs them on raises them and notes which
ones it raised; closing the scope takes those off again. Scopes nest, and between
them marks may be set off for other reasons.

`Covered off undos` says that every mark is off or some open scope takes it off.
Opening a scope, closing any of them and setting marks off keep it, so with no
scope open every mark is off (`Covered.all`).
-/

namespace Undo

variable {M : Type*} {off off' : M → Prop} {undos undos' : List (M → Prop)} {undo : M → Prop}

/-- Every mark is off, or an open scope takes it off. -/
def Covered (off : M → Prop) (undos : List (M → Prop)) : Prop :=
  ∀ m, off m ∨ ∃ undo ∈ undos, undo m

theorem covered_of_off (h : ∀ m, off m) : Covered off undos := fun m => Or.inl (h m)

/-- With no scope open every mark is off. -/
theorem Covered.all (h : Covered off []) (m : M) : off m := by
  rcases h m with hm | ⟨undo, hmem, -⟩
  · exact hm
  · cases hmem

/-- Opening a scope that notes every mark it raises. -/
theorem Covered.push (h : Covered off undos) (hnote : ∀ m, off m → undo m) :
    Covered off' (undo :: undos) := by
  intro m
  rcases h m with hm | ⟨u, hu, hum⟩
  · exact Or.inr ⟨undo, List.mem_cons_self, hnote m hm⟩
  · exact Or.inr ⟨u, List.mem_cons_of_mem _ hu, hum⟩

/-- Closing a scope, wherever it stands. -/
theorem Covered.pop (h : Covered off undos) (hsub : ∀ u ∈ undos, u = undo ∨ u ∈ undos')
    (hclose : ∀ m, off m ∨ undo m → off' m) : Covered off' undos' := by
  intro m
  rcases h m with hm | ⟨u, hu, hum⟩
  · exact Or.inl (hclose m (Or.inl hm))
  · rcases hsub u hu with rfl | hu'
    · exact Or.inl (hclose m (Or.inr hum))
    · exact Or.inr ⟨u, hu', hum⟩

end Undo
