import Mathlib.Data.List.Basic

/-!
# Changes and the notices that follow them

A log of a writer's work on some fields: an entry for every change of a field's value and one
for every notice of a field that went out. A field is `Settled` when a notice of it follows each
of its changes; `owed` is the same as a flag that is carried along (`settled_iff`).
-/

namespace Notice

variable {φ : Type*}

/-- What a writer did. -/
inductive Entry (φ : Type*)
  | changed (f : φ)
  | notified (f : φ)
  deriving DecidableEq

namespace Entry

/-- The field an entry is about. -/
def field : Entry φ → φ
  | .changed f => f
  | .notified f => f

end Entry

/-- A notice of the field follows each of its changes. -/
def Settled (f : φ) (log : List (Entry φ)) : Prop :=
  ∀ before after, log = before ++ .changed f :: after → .notified f ∈ after

/-- The entry of a write that may leave the value as it was. -/
def change (f : φ) (changes : Bool) : List (Entry φ) := if changes then [.changed f] else []

theorem field_of_mem_change {f : φ} {changes : Bool} {e : Entry φ} (h : e ∈ change f changes) :
    e.field = f := by
  unfold change at h
  split at h
  · rw [List.mem_singleton.mp h]
    rfl
  · cases h

/-- The entries of a write that was announced are about its field. -/
theorem field_of_mem_announced {f : φ} {changes : Bool} {e : Entry φ}
    (h : e ∈ change f changes ++ [.notified f]) : e.field = f := by
  rcases List.mem_append.mp h with h | h
  · exact field_of_mem_change h
  · rw [List.mem_singleton.mp h]
    rfl

theorem settled_cons {f : φ} {e : Entry φ} {log : List (Entry φ)} :
    Settled f (e :: log) ↔ (e = .changed f → .notified f ∈ log) ∧ Settled f log := by
  constructor
  · intro h
    refine ⟨fun he => h [] log (by rw [he]; rfl), fun before after heq => ?_⟩
    exact h (e :: before) after (by rw [heq]; rfl)
  · rintro ⟨hhead, htail⟩ before after heq
    cases before with
    | nil =>
      obtain ⟨rfl, rfl⟩ := List.cons.inj heq
      exact hhead rfl
    | cons e' before => exact htail before after (List.cons.inj heq).2

variable [DecidableEq φ]

/-- Whether a notice is owed after the entries, if one was before them. -/
def owed (f : φ) : Bool → List (Entry φ) → Bool
  | o, [] => o
  | o, .changed g :: log => owed f (o || g = f) log
  | o, .notified g :: log => owed f (o && g ≠ f) log

theorem owed_append (f : φ) (o : Bool) (log log' : List (Entry φ)) :
    owed f o (log ++ log') = owed f (owed f o log) log' := by
  induction log generalizing o with
  | nil => rfl
  | cons e log ih => cases e <;> exact ih _

/-- Entries about other fields change nothing. -/
theorem owed_of_ne {f : φ} {o : Bool} {log : List (Entry φ)} (h : ∀ e ∈ log, e.field ≠ f) :
    owed f o log = o := by
  induction log generalizing o with
  | nil => rfl
  | cons e log ih =>
    have hne := h e List.mem_cons_self
    have hrest : ∀ e ∈ log, e.field ≠ f := fun e' he' => h e' (List.mem_cons_of_mem _ he')
    cases e with
    | changed g =>
      have hg : g ≠ f := hne
      rw [owed, ih hrest, decide_eq_false hg, Bool.or_false]
    | notified g =>
      have hg : g ≠ f := hne
      rw [owed, ih hrest, decide_eq_true hg, Bool.and_true]

/-- A notice at the end settles the field. -/
theorem owed_concat_notified (f : φ) (o : Bool) (log : List (Entry φ)) :
    owed f o (log ++ [.notified f]) = false := by
  rw [owed_append]
  simp [owed]

theorem owed_eq_false_iff {f : φ} {o : Bool} {log : List (Entry φ)} :
    owed f o log = false ↔ (o = true → .notified f ∈ log) ∧ Settled f log := by
  induction log generalizing o with
  | nil =>
    have hsettled : Settled f [] := fun before after h => by simp at h
    simp [owed, hsettled]
  | cons e log ih =>
    rw [settled_cons]
    cases e with
    | changed g =>
      rw [owed, ih]
      by_cases hg : g = f
      · simp only [hg, decide_true, Bool.or_true, forall_const, List.mem_cons, reduceCtorEq,
          false_or]
        exact ⟨fun h => ⟨fun _ => h.1, h⟩, fun h => h.2⟩
      · simp [hg]
    | notified g =>
      rw [owed, ih]
      by_cases hg : g = f
      · simp [hg]
      · simp [hg, Ne.symm hg]

/-- A field is settled exactly when no notice of it is owed. -/
theorem settled_iff {f : φ} {log : List (Entry φ)} : Settled f log ↔ owed f false log = false := by
  simp [owed_eq_false_iff]

end Notice
