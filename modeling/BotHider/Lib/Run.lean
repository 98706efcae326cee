import Mathlib.Logic.Relation

/-!
# Runs of a deterministic transition system

A system is a total step function `step : σ → ε → σ` over states `σ` and
events `ε`. What the environment promises is a predicate `Ok s e` on the state
an event fires in and the event itself; a run is a list of events each of
which is promised where it fires (`Admits`), and `exec` is the state after it.

* `exec_invariant` — a property of the start kept by every promised event holds
  after every run.
* `forall_prefix_iff_admits` — a condition on the events that is exactly what a property
  of every state of the run needs.
* `exec_simulates` — a step-wise refinement of an abstract step relation lifts
  to runs.
-/

namespace Runs

variable {σ ε α : Type*}

/-- The state after the events `es`, taken from left to right. -/
def exec (step : σ → ε → σ) (s : σ) (es : List ε) : σ := es.foldl step s

/-- Every event of the run is promised in the state it fires in. -/
def Admits (step : σ → ε → σ) (Ok : σ → ε → Prop) : σ → List ε → Prop
  | _, [] => True
  | s, e :: es => Ok s e ∧ Admits step Ok (step s e) es

variable {step : σ → ε → σ} {Ok Ok' : σ → ε → Prop}

@[simp] theorem exec_nil (s : σ) : exec step s [] = s := rfl

@[simp] theorem exec_cons (s : σ) (e : ε) (es : List ε) :
    exec step s (e :: es) = exec step (step s e) es := rfl

/-- A view of the states with steps of its own runs along with them. -/
theorem exec_view {step' : α → ε → α} (f : σ → α) (h : ∀ s e, f (step s e) = step' (f s) e)
    (s : σ) (es : List ε) : f (exec step s es) = exec step' (f s) es :=
  (List.foldl_hom f fun s e => (h s e).symm).symm

theorem exec_append (s : σ) (es es' : List ε) :
    exec step s (es ++ es') = exec step (exec step s es) es' :=
  List.foldl_append ..

theorem admits_append {s : σ} {es es' : List ε} :
    Admits step Ok s (es ++ es') ↔
      Admits step Ok s es ∧ Admits step Ok (exec step s es) es' := by
  induction es generalizing s with
  | nil => simp [Admits]
  | cons e es ih => simp only [List.cons_append, Admits, ih, exec_cons, and_assoc]

/-- A run under a stronger promise is a run under a weaker one. -/
theorem Admits.mono {s : σ} {es : List ε} (hle : ∀ s e, Ok s e → Ok' s e)
    (h : Admits step Ok s es) : Admits step Ok' s es := by
  induction es generalizing s with
  | nil => trivial
  | cons e es ih => exact ⟨hle s e h.1, ih h.2⟩

/-- Events that are promised everywhere make a run anywhere. -/
theorem admits_of_forall {s : σ} {es : List ε} (h : ∀ s, ∀ e ∈ es, Ok s e) :
    Admits step Ok s es := by
  induction es generalizing s with
  | nil => trivial
  | cons e es ih =>
    exact ⟨h s e List.mem_cons_self, ih fun s e he => h s e (List.mem_cons_of_mem _ he)⟩

/-- Where nothing is promised every list of events is a run. -/
theorem admits_true (s : σ) (es : List ε) : Admits step (fun _ _ => True) s es :=
  admits_of_forall fun _ _ _ => trivial

/-! ## Invariants -/

/-- **Run rule.** A property of the start that every promised event keeps holds
after every run. -/
theorem exec_invariant {I : σ → Prop} {s : σ} {es : List ε} (h0 : I s)
    (hstep : ∀ s e, I s → Ok s e → I (step s e))
    (ha : Admits step Ok s es) : I (exec step s es) := by
  induction es generalizing s with
  | nil => exact h0
  | cons e es ih => exact ih (hstep s e h0 ha.1) ha.2

/-- **Run rule without promises.** A property of the start that every event keeps holds after
every run. -/
theorem exec_always {I : σ → Prop} {s : σ} {es : List ε} (h0 : I s)
    (hstep : ∀ s e, I s → I (step s e)) : I (exec step s es) :=
  exec_invariant h0 (fun s e hs _ => hstep s e hs) (admits_true s es)

/-- **Run rule along a property.** An invariant that promised events keep while a property
holds before and after them holds after a run all along which it does. -/
theorem exec_invariant_along {I P : σ → Prop} {s : σ} {es : List ε} (h0 : I s)
    (hstep : ∀ s e, I s → P s → P (step s e) → Ok s e → I (step s e))
    (ha : Admits step Ok s es) (hp : ∀ pre, pre <+: es → P (exec step s pre)) :
    I (exec step s es) := by
  induction es generalizing s with
  | nil => exact h0
  | cons e es ih =>
    have hhead := hp [e] (List.prefix_append [e] es)
    refine ih (hstep s e h0 (hp [] List.nil_prefix) hhead ha.1) ha.2 fun pre hpre => ?_
    exact hp (e :: pre) (List.cons_prefix_cons.mpr ⟨rfl, hpre⟩)

/-- A run splits at any event: the event fires, promised, in the state the
events before it lead to. -/
theorem Admits.at {s : σ} {es es' : List ε} {e : ε}
    (ha : Admits step Ok s (es ++ e :: es')) : Ok (exec step s es) e :=
  (admits_append.mp ha).2.1

/-- **Exact condition.** When an invariant gives a property, every promised event that
meets a condition keeps the invariant and every other breaks the property, the property
holds all along a run exactly when each of its events meets the condition. -/
theorem forall_prefix_iff_admits {I P : σ → Prop} {Cond : σ → ε → Prop} {s : σ} {es : List ε}
    (h0 : I s) (hprop : ∀ s, I s → P s)
    (hkeep : ∀ s e, I s → Ok s e → Cond s e → I (step s e))
    (hbreak : ∀ s e, I s → Ok s e → ¬ Cond s e → ¬ P (step s e))
    (ha : Admits step Ok s es) :
    (∀ pre, pre <+: es → P (exec step s pre)) ↔ Admits step Cond s es := by
  induction es generalizing s with
  | nil =>
    refine ⟨fun _ => trivial, fun _ pre hpre => ?_⟩
    obtain rfl := List.prefix_nil.mp hpre
    exact hprop s h0
  | cons e es ih =>
    constructor
    · intro h
      have hc : Cond s e := Classical.not_not.mp fun hn =>
        hbreak s e h0 ha.1 hn (h [e] (List.prefix_append [e] es))
      exact ⟨hc, (ih (hkeep s e h0 ha.1 hc) ha.2).mp fun pre hpre =>
        h (e :: pre) (List.cons_prefix_cons.mpr ⟨rfl, hpre⟩)⟩
    · rintro ⟨hc, hrest⟩ pre hpre
      cases pre with
      | nil => exact hprop s h0
      | cons e' pre =>
        obtain ⟨rfl, htail⟩ := List.cons_prefix_cons.mp hpre
        exact (ih (hkeep s _ h0 ha.1 hc) ha.2).mpr hrest pre htail

/-! ## Refinement -/

/-- **Refinement rule.** When every promised event of the concrete system is a
finite path of the abstract one, along `f`, so is every run. -/
theorem exec_simulates {I : σ → Prop} {A : α → α → Prop} (f : σ → α) {s : σ} {es : List ε}
    (h0 : I s) (hstep : ∀ s e, I s → Ok s e → I (step s e))
    (hsim : ∀ s e, I s → Ok s e → Relation.ReflTransGen A (f s) (f (step s e)))
    (ha : Admits step Ok s es) : Relation.ReflTransGen A (f s) (f (exec step s es)) := by
  induction es generalizing s with
  | nil => exact .refl
  | cons e es ih => exact (hsim s e h0 ha.1).trans (ih (hstep s e h0 ha.1) ha.2)

/-- An invariant of an abstract step relation is an invariant of its paths. -/
theorem path_invariant {A : α → α → Prop} {I : α → Prop} {a b : α} (h0 : I a)
    (hstep : ∀ a b, I a → A a b → I b) (hp : Relation.ReflTransGen A a b) : I b := by
  induction hp with
  | refl => exact h0
  | tail _ hab ih => exact hstep _ _ ih hab

end Runs
