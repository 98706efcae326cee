import Mathlib.Data.List.Induction
import Mathlib.Data.List.Nodup
import Mathlib.Logic.Function.Basic

/-!
# Marks taken off cells and given back

Owners refer to cells, some to the same one, some to none. Taking goes over the owners, takes
the mark off each cell that has it and records the reference; giving goes over the records and
puts the mark back on each cell that is still the one referred to.

* `take_spec` — what is recorded, once, and what becomes of every cell.
* `give_apply` — what giving back makes of every cell.
-/

namespace Lend

variable {ι β ρ ω : Type*} [DecidableEq ι] {place : ρ → ι}

/-! ## Taking -/

section Take

variable (place) (target : ω → Option ρ) (marked : β → Bool) (clear : β → β)

/-- Taking at one owner. -/
def takeOne (s : (ι → Option β) × List ρ) (o : ω) : (ι → Option β) × List ρ :=
  match target o with
  | none => s
  | some r =>
    match s.1 (place r) with
    | none => s
    | some b =>
      if marked b then (Function.update s.1 (place r) (some (clear b)), s.2 ++ [r]) else s

/-- Taking at every owner. -/
def take (owners : List ω) (cells : ι → Option β) : (ι → Option β) × List ρ :=
  owners.foldl (takeOne place target marked clear) (cells, [])

/-- What taking leaves: each reference to a marked cell, once, and the cells without their
marks. -/
structure Taken (owners : List ω) (cells : ι → Option β) (s : (ι → Option β) × List ρ) :
    Prop where
  nodup : s.2.Nodup
  mem : ∀ r, r ∈ s.2 ↔ (∃ o ∈ owners, target o = some r) ∧ ∃ b, cells (place r) = some b ∧
    marked b = true
  of_mem : ∀ r ∈ s.2, s.1 (place r) = (cells (place r)).map clear
  of_notMem : ∀ i, (∀ r ∈ s.2, place r ≠ i) → s.1 i = cells i

variable {target marked clear} {cells : ι → Option β} {owners : List ω}
  {s : (ι → Option β) × List ρ}

/-- One more owner. -/
theorem Taken.takeOne (hclear : ∀ b, marked (clear b) = false)
    (hplace : ∀ o o' r r', target o = some r → target o' = some r' → place r = place r' → r = r')
    (h : Taken place target marked clear owners cells s) (o : ω) :
    Taken place target marked clear (owners ++ [o]) cells
      (Lend.takeOne place target marked clear s o) := by
  unfold Lend.takeOne
  cases ht : target o with
  | none =>
    refine ⟨h.nodup, fun r => (h.mem r).trans (and_congr_left fun _ => ?_), h.of_mem, h.of_notMem⟩
    simp [or_and_right, exists_or, ht]
  | some r =>
    dsimp only
    -- the reference is recorded exactly when its cell is marked
    have hmem : ∀ q, (∃ o' ∈ owners ++ [o], target o' = some q) ↔
        (∃ o' ∈ owners, target o' = some q) ∨ q = r := by
      intro q
      simp [or_and_right, exists_or, ht, eq_comm]
    have hsame : ∀ q ∈ s.2, place q = place r → q = r := by
      intro q hq hp
      obtain ⟨⟨o', -, ho'⟩, -⟩ := (h.mem q).mp hq
      exact hplace o' o q r ho' ht hp
    have hkept : ((∃ b, cells (place r) = some b ∧ marked b = true) → r ∈ s.2) →
        Taken place target marked clear (owners ++ [o]) cells s := by
      intro hr
      refine ⟨h.nodup, fun q => ?_, h.of_mem, h.of_notMem⟩
      rw [hmem q]
      constructor
      · intro hq
        exact ⟨Or.inl ((h.mem q).mp hq).1, ((h.mem q).mp hq).2⟩
      · rintro ⟨hq | rfl, hb⟩
        · exact (h.mem q).mpr ⟨hq, hb⟩
        · exact hr hb
    by_cases hr : r ∈ s.2
    · -- a shared cell: its mark is gone already
      have hcell := h.of_mem r hr
      cases hb : s.1 (place r) with
      | none => exact hkept fun _ => hr
      | some b =>
        rw [hb] at hcell
        obtain ⟨b₀, -, rfl⟩ := Option.map_eq_some_iff.mp hcell.symm
        dsimp only
        rw [hclear b₀]
        exact hkept fun _ => hr
    · have hfresh : ∀ q ∈ s.2, place q ≠ place r := fun q hq hp => hr (hsame q hq hp ▸ hq)
      have hcell : s.1 (place r) = cells (place r) := h.of_notMem _ hfresh
      rw [hcell]
      cases hb : cells (place r) with
      | none => exact hkept fun ⟨b, hc, _⟩ => nomatch hb.symm.trans hc
      | some b =>
        dsimp only
        cases hm : marked b with
        | false =>
          refine hkept fun ⟨b', hc, hm'⟩ => ?_
          obtain rfl := Option.some.inj (hb.symm.trans hc)
          exact absurd (hm'.symm.trans hm) Bool.noConfusion
        | true =>
          refine ⟨?_, fun q => ?_, fun q hq => ?_, fun i hi => ?_⟩
          · exact List.nodup_append.mpr ⟨h.nodup, List.nodup_singleton r, fun q hq q' hq' heq => by
              rw [List.mem_singleton] at hq'
              exact hr (hq' ▸ heq ▸ hq)⟩
          · rw [hmem q]
            change q ∈ s.2 ++ [r] ↔ _
            rw [List.mem_append, List.mem_singleton, h.mem q]
            constructor
            · rintro (⟨hq, hc⟩ | rfl)
              · exact ⟨Or.inl hq, hc⟩
              · exact ⟨Or.inr rfl, b, hb, hm⟩
            · rintro ⟨hq | rfl, hc⟩
              · exact Or.inl ⟨hq, hc⟩
              · exact Or.inr rfl
          · change Function.update s.1 (place r) (some (clear b)) (place q) = _
            rcases List.mem_append.mp hq with hq | hq
            · rw [Function.update_of_ne (hfresh q hq)]
              exact h.of_mem q hq
            · obtain rfl := List.mem_singleton.mp hq
              rw [Function.update_self, hb]
              rfl
          · change Function.update s.1 (place r) (some (clear b)) i = _
            have hne : i ≠ place r := fun heq =>
              hi r (List.mem_append_right _ (List.mem_singleton_self r)) heq.symm
            rw [Function.update_of_ne hne]
            exact h.of_notMem i fun q hq => hi q (List.mem_append_left _ hq)

/-- **Taking.** Cells shared by several owners are taken once. -/
theorem take_spec (hclear : ∀ b, marked (clear b) = false)
    (hplace : ∀ o o' r r', target o = some r → target o' = some r' → place r = place r' → r = r')
    (owners : List ω) (cells : ι → Option β) :
    Taken place target marked clear owners cells (take place target marked clear owners cells) := by
  unfold take
  induction owners using List.reverseRecOn with
  | nil => exact ⟨List.nodup_nil, by simp, by simp, fun _ _ => rfl⟩
  | append_singleton owners o ih =>
    rw [List.foldl_append]
    exact ih.takeOne place hclear hplace o

end Take

/-! ## Giving back -/

section Give

variable (place) (live : ρ → β → Bool) (set : β → β)

/-- Giving back at one record. -/
def giveOne (cells : ι → Option β) (r : ρ) : ι → Option β :=
  match cells (place r) with
  | none => cells
  | some b => if live r b then Function.update cells (place r) (some (set b)) else cells

/-- Giving back at every record. -/
def give (records : List ρ) (cells : ι → Option β) : ι → Option β :=
  records.foldl (giveOne place live set) cells

variable {live set}

theorem giveOne_apply (cells : ι → Option β) (r : ρ) (i : ι) :
    giveOne place live set cells r i =
      (cells i).map fun b => if place r = i ∧ live r b = true then set b else b := by
  unfold giveOne
  cases hb : cells (place r) with
  | none =>
    by_cases hi : place r = i
    · subst hi
      simp [hb]
    · simp [hi]
  | some b =>
    dsimp only
    by_cases hi : place r = i
    · subst hi
      split <;> simp_all
    · split
      · rw [Function.update_of_ne (Ne.symm hi)]
        simp [hi]
      · simp [hi]

/-- **Giving back.** Every cell that a record still refers to gets its mark, whichever record
that is, and every other cell stays. -/
theorem give_apply (hlive : ∀ r b, live r (set b) = live r b) (hset : ∀ b, set (set b) = set b)
    (records : List ρ) (cells : ι → Option β) (i : ι) :
    give place live set records cells i = (cells i).map fun b =>
      if ∃ r ∈ records, place r = i ∧ live r b = true then set b else b := by
  unfold give
  induction records generalizing cells with
  | nil => simp
  | cons r records ih =>
    rw [List.foldl_cons, ih, giveOne_apply, Option.map_map]
    congr 1
    funext b
    by_cases hr : place r = i ∧ live r b = true
    · simp [hr, hlive, hset]
    · simp [hr]

end Give

end Lend
