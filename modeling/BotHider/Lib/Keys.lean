import BotHider.Lib.Run
import Mathlib.Logic.Function.Basic

/-!
# Keys that tell their holders apart

Holders `ι` carry keys `κ`, each at most one: `f : ι → Option κ`. A key identifies its
holder when no two holders carry it (`Distinct`). A change that takes keys away cannot
spoil that, and one that grants a key cannot when nobody else carries it.

* `Distinct.of_grants` — a grant of an unused key keeps keys distinct.
* `distinct_exec` — so does a run of them.
-/

namespace Keys

variable {ι κ : Type*}

/-- No two holders carry the same key. -/
def Distinct (f : ι → Option κ) : Prop := ∀ s t k, f s = some k → f t = some k → s = t

/-- No other holder carries the key. -/
def Unused (f : ι → Option κ) (s : ι) (k : κ) : Prop := ∀ t, f t = some k → t = s

/-- Every key carried afterwards was carried before, by the same holder, or is the one
granted. -/
def Grants (given : Option (ι × κ)) (f f' : ι → Option κ) : Prop :=
  ∀ s k, f' s = some k → f s = some k ∨ given = some (s, k)

variable {given : Option (ι × κ)} {f f' f'' : ι → Option κ}

theorem Grants.refl : Grants given f f := fun _ _ h => Or.inl h

/-- A change that grants nothing. -/
theorem grants_none (h : ∀ s k, f' s = some k → f s = some k) : Grants given f f' :=
  fun s k hk => Or.inl (h s k hk)

theorem Grants.before (h : Grants none f f') (h' : Grants given f' f'') : Grants given f f'' := by
  intro s k hk
  rcases h' s k hk with hk' | hgiven
  · rcases h s k hk' with hk | hnone
    · exact Or.inl hk
    · cases hnone
  · exact Or.inr hgiven

theorem Grants.of_none (h : Grants none f f') : Grants given f f' := h.before .refl

/-- A change of one holder's key. -/
theorem grants_at {s : ι} (hself : ∀ k, f' s = some k → f s = some k ∨ given = some (s, k))
    (hother : ∀ t, t ≠ s → f' t = f t) : Grants given f f' := by
  intro t k hk
  rcases eq_or_ne t s with rfl | hts
  · exact hself k hk
  · exact Or.inl ((hother t hts).symm.trans hk)

/-- Keys stay distinct when the one granted is unused. -/
theorem Distinct.of_grants (hd : Distinct f) (hg : Grants given f f')
    (hunused : ∀ s k, given = some (s, k) → Unused f s k) : Distinct f' := by
  intro s t k hs ht
  rcases hg s k hs with hs' | hgiven
  · rcases hg t k ht with ht' | hgiven
    · exact hd s t k hs' ht'
    · exact hunused t k hgiven s hs'
  · rcases hg t k ht with ht' | hgiven'
    · exact (hunused s k hgiven t ht').symm
    · rw [hgiven] at hgiven'
      cases hgiven'
      rfl

/-- **Run rule.** Keys that are distinct at the start are distinct after every run that
grants unused ones only. -/
theorem distinct_exec {σ ε : Type*} {step : σ → ε → σ} {Ok : σ → ε → Prop} {I : σ → Prop}
    (keys : σ → ι → Option κ) (given : σ → ε → Option (ι × κ)) {s : σ} {es : List ε}
    (hI : I s) (h0 : Distinct (keys s)) (hstep : ∀ s e, I s → Ok s e → I (step s e))
    (hgrants : ∀ s e, I s → Ok s e → Grants (given s e) (keys s) (keys (step s e)))
    (hunused : ∀ s e, Ok s e → ∀ i k, given s e = some (i, k) → Unused (keys s) i k)
    (ha : Runs.Admits step Ok s es) : Distinct (keys (Runs.exec step s es)) := by
  refine (Runs.exec_invariant (I := fun s => I s ∧ Distinct (keys s)) ⟨hI, h0⟩ ?_ ha).2
  exact fun s e h hok => ⟨hstep s e h.1 hok, h.2.of_grants (hgrants s e h.1 hok) (hunused s e hok)⟩

end Keys
