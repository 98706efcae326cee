import Mathlib.Data.List.Induction
import Mathlib.Logic.Basic

/-!
# Logs of commands whose outcomes come later

A log lists the commands on a value in the order they were accepted. `none` resets the
value; `some i` is a command whose outcome comes later: `out i` is the value it brings, or
`none` when it leaves the value alone.

* `Live` — the command is in the log, and no reset follows it.
* `effect_congr` — what a log comes to depends on the outcomes of its live commands only.
-/

namespace Deferred

variable {ι δ : Type*}

/-- One command. -/
def apply (empty : δ) (out : ι → Option δ) (d : δ) : Option ι → δ
  | none => empty
  | some i => (out i).getD d

/-- What a log comes to. -/
def effect (empty : δ) (out : ι → Option δ) (log : List (Option ι)) : δ :=
  log.foldl (apply empty out) empty

/-- No reset follows the command. -/
def Live (log : List (Option ι)) (i : ι) : Prop :=
  ∃ pre post, log = pre ++ some i :: post ∧ none ∉ post

variable {empty : δ} {out out' : ι → Option δ} {log : List (Option ι)} {i j : ι}

@[simp] theorem effect_nil : effect empty out [] = empty := rfl

theorem effect_append_none : effect empty out (log ++ [none]) = empty := by
  unfold effect
  rw [List.foldl_append]
  rfl

theorem effect_append_some :
    effect empty out (log ++ [some i]) = (out i).getD (effect empty out log) := by
  unfold effect
  rw [List.foldl_append]
  rfl

theorem Live.mem (h : Live log i) : some i ∈ log := by
  obtain ⟨pre, post, rfl, -⟩ := h
  exact List.mem_append_right _ List.mem_cons_self

theorem not_live_append_none : ¬ Live (log ++ [none]) i := by
  rintro ⟨pre, post, heq, hpost⟩
  rcases List.eq_nil_or_concat post with rfl | ⟨post, c, rfl⟩
  · have hlast := congrArg List.getLast? heq
    simp at hlast
  · rw [List.concat_eq_append, ← List.cons_append, ← List.append_assoc] at heq
    obtain ⟨-, hc⟩ := List.append_inj' heq rfl
    rw [← List.singleton_inj.mp hc] at hpost
    exact hpost (by simp)

theorem live_append_some : Live (log ++ [some j]) i ↔ i = j ∨ Live log i := by
  constructor
  · rintro ⟨pre, post, heq, hpost⟩
    rcases List.eq_nil_or_concat post with rfl | ⟨post, c, rfl⟩
    · obtain ⟨-, hc⟩ := List.append_inj' heq rfl
      exact Or.inl (Option.some.inj (List.singleton_inj.mp hc)).symm
    · rw [List.concat_eq_append, ← List.cons_append, ← List.append_assoc] at heq
      obtain ⟨hlog, -⟩ := List.append_inj' heq rfl
      exact Or.inr ⟨pre, post, hlog, fun h => hpost (by simp [h])⟩
  · rintro (rfl | ⟨pre, post, rfl, hpost⟩)
    · exact ⟨log, [], rfl, List.not_mem_nil⟩
    · exact ⟨pre, post ++ [some j], by simp, by simpa using hpost⟩

/-- **Live outcomes decide.** What a log comes to depends on the outcomes of its live
commands only. -/
theorem effect_congr (h : ∀ i, Live log i → out i = out' i) :
    effect empty out log = effect empty out' log := by
  induction log using List.reverseRecOn with
  | nil => rfl
  | append_singleton log c ih =>
    cases c with
    | none => rw [effect_append_none, effect_append_none]
    | some j =>
      rw [effect_append_some, effect_append_some, h j (live_append_some.mpr (Or.inl rfl)),
        ih fun i hi => h i (live_append_some.mpr (Or.inr hi))]

end Deferred
