import BotHider.Lib.Run

/-!
# What a run can afford

Events of a kind pay from a budget. Where no event raises the budget and one of the kind lowers
it, a run has no more of them than the budget it starts with.

* `count_le_budget` — the bound for a run all of whose events are promised.
-/

namespace Runs

variable {σ ε : Type*}

/-- How many events of a run are of a kind, each where it fires. -/
def count (step : σ → ε → σ) (kind : σ → ε → Bool) : σ → List ε → Nat
  | _, [] => 0
  | s, e :: es => (if kind s e then 1 else 0) + count step kind (step s e) es

variable {step : σ → ε → σ} {kind : σ → ε → Bool} {Ok : σ → ε → Prop}

/-- **Budget rule.** What is paid and what is left of the budget are no more than it was. -/
theorem count_add_budget_le {I : σ → Prop} {budget : σ → Nat} {s : σ} {es : List ε} (h0 : I s)
    (hkeep : ∀ s e, I s → Ok s e → I (step s e))
    (hpay : ∀ s e, I s → Ok s e → (if kind s e then 1 else 0) + budget (step s e) ≤ budget s)
    (ha : Admits step Ok s es) : count step kind s es + budget (exec step s es) ≤ budget s := by
  induction es generalizing s with
  | nil => exact Nat.le_of_eq (Nat.zero_add _)
  | cons e es ih =>
    have hrest := ih (hkeep s e h0 ha.1) ha.2
    have hhead := hpay s e h0 ha.1
    rw [count, exec_cons]
    omega

theorem count_le_budget {I : σ → Prop} (budget : σ → Nat) {s : σ} {es : List ε} (h0 : I s)
    (hkeep : ∀ s e, I s → I (step s e))
    (hpay : ∀ s e, I s → (if kind s e then 1 else 0) + budget (step s e) ≤ budget s) :
    count step kind s es ≤ budget s :=
  Nat.le_of_add_right_le (count_add_budget_le h0 (fun s e hs _ => hkeep s e hs)
    (fun s e hs _ => hpay s e hs) (admits_true s es))

end Runs
