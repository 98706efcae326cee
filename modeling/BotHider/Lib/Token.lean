import Mathlib.Data.List.Nodup
import Mathlib.Data.List.Range
import Mathlib.Logic.Function.Iterate
import Mathlib.Logic.Relation

/-!
# Tokens from a wrapping counter

Holders are handed tokens one after another and give them back. A token read
while a holder had it names that one tenure: as long as no two tokens handed
out are equal, the holder never has that token again once it gave it back,
however often it is served afterwards (`not_held_again`).

Tokens come from a counter that wraps from its maximum `M` to `1` and never
takes the value `0` (`bump`); up to `M` of them are pairwise distinct
(`bumps_nodup`).
-/

namespace Token

/-! ## The counter -/

/-- The successor on `1..M`, from any start: `M` wraps to `1`. -/
def bump (M n : Nat) : Nat := n % M + 1

theorem bump_pos (M n : Nat) : 0 < bump M n := Nat.succ_pos _

/-- The value after `k + 1` bumps, in closed form. -/
theorem iterate_bump {M : Nat} (hM : 0 < M) (n k : Nat) :
    (bump M)^[k + 1] n = (n + k) % M + 1 := by
  induction k with
  | zero => rfl
  | succ k ih =>
    rw [Function.iterate_succ_apply', ih, bump]
    rcases Nat.lt_or_ge ((n + k) % M + 1) M with hlt | hge
    · rw [Nat.mod_eq_of_lt hlt, ← Nat.add_assoc n k 1, Nat.add_mod (n + k) 1 M]
      rw [Nat.mod_eq_of_lt (show 1 < M by omega), Nat.mod_eq_of_lt hlt]
    · -- the counter stands at its maximum, so this bump wraps
      have hlt := Nat.mod_lt (n + k) hM
      have hM1 : (n + k) % M + 1 = M := by omega
      have hdvd : (n + (k + 1)) % M = 0 := by
        have hdm := Nat.div_add_mod (n + k) M
        have : n + (k + 1) = M * ((n + k) / M + 1) := by
          rw [Nat.mul_add]
          omega
        rw [this, Nat.mul_mod_right]
      rw [hM1, hdvd, Nat.mod_self]

/-- Bumps fewer than `M` apart give different values. -/
theorem iterate_bump_ne {M n i j : Nat} (hij : i < j) (hj : j < i + M) :
    (bump M)^[i + 1] n ≠ (bump M)^[j + 1] n := by
  have hM : 0 < M := by omega
  rw [iterate_bump hM, iterate_bump hM]
  intro h
  have hmod : (n + i) % M = (n + j) % M := by omega
  have hi := Nat.div_add_mod (n + i) M
  have hj' := Nat.div_add_mod (n + j) M
  rcases Nat.lt_trichotomy ((n + i) / M) ((n + j) / M) with hlt | heq | hgt
  · have : M * ((n + i) / M + 1) ≤ M * ((n + j) / M) := Nat.mul_le_mul_left _ hlt
    rw [Nat.mul_add] at this
    omega
  · rw [heq] at hi
    omega
  · have : M * ((n + j) / M) ≤ M * ((n + i) / M) := Nat.mul_le_mul_left _ hgt.le
    omega

/-- The first `k` values the counter hands out, oldest first. -/
def bumps (M n k : Nat) : List Nat := (List.range k).map fun i => (bump M)^[i + 1] n

theorem bumps_succ (M n k : Nat) : bumps M n (k + 1) = bumps M n k ++ [(bump M)^[k + 1] n] := by
  rw [bumps, List.range_succ, List.map_append]
  rfl

theorem bumps_nodup {M n k : Nat} (hk : k ≤ M) : (bumps M n k).Nodup := by
  refine List.Nodup.map_on ?_ List.nodup_range
  intro i hi j hj heq
  rw [List.mem_range] at hi hj
  rcases Nat.lt_trichotomy i j with h | h | h
  · exact absurd heq (iterate_bump_ne h (by omega))
  · exact h
  · exact absurd heq.symm (iterate_bump_ne h (by omega))

theorem pos_of_mem_bumps {M n k t : Nat} (ht : t ∈ bumps M n k) : 0 < t := by
  obtain ⟨i, -, rfl⟩ := List.mem_map.mp ht
  rw [Function.iterate_succ_apply']
  exact bump_pos ..

/-! ## Tenures -/

variable {ι τ : Type*}

/-- Who holds what, and every token handed out so far, newest first. -/
structure Ledger (ι τ : Type*) where
  holds : ι → Option τ
  issued : List τ

/-- What can happen to a ledger: each holder keeps its token, gives it up, or is
handed the newest one. -/
structure Ledger.Step (l l' : Ledger ι τ) : Prop where
  issued : l.issued <:+ l'.issued
  holds : ∀ i t, l'.holds i = some t →
    l.holds i = some t ∨ ∃ older, l.issued <:+ older ∧ (t :: older) <:+ l'.issued

/-- Every token held was handed out. -/
def Ledger.Sound (l : Ledger ι τ) : Prop := ∀ i t, l.holds i = some t → t ∈ l.issued

theorem Ledger.Step.sound {l l' : Ledger ι τ} (h : l.Step l') (hs : l.Sound) : l'.Sound := by
  intro i t ht
  rcases h.holds i t ht with hk | ⟨older, -, hnew⟩
  · exact h.issued.subset (hs i t hk)
  · exact hnew.subset List.mem_cons_self

/-- A token already handed out and not held by `i` is not handed to `i` by a step
that repeats no token. -/
theorem Ledger.Step.not_regranted {l l' : Ledger ι τ} {i : ι} {t : τ} (h : l.Step l')
    (hnd : l'.issued.Nodup) (ht : t ∈ l.issued) (hi : l.holds i ≠ some t) :
    l'.holds i ≠ some t := by
  intro hc
  rcases h.holds i t hc with hk | ⟨older, hold, hnew⟩
  · exact hi hk
  · have hnd' : (t :: older).Nodup := hnd.sublist hnew.sublist
    exact (List.nodup_cons.mp hnd').1 (hold.subset ht)

theorem issued_suffix {l l' : Ledger ι τ} (hp : Relation.ReflTransGen Ledger.Step l l') :
    l.issued <:+ l'.issued := by
  induction hp with
  | refl => exact List.suffix_rfl
  | tail _ hs ih => exact ih.trans hs.issued

/-- **Stale tokens stay stale.** A token handed out before a path of steps and not
held by `i` at its start is not held by `i` at its end, provided no token was
handed out twice. -/
theorem not_held_again {l l' : Ledger ι τ} {i : ι} {t : τ}
    (hp : Relation.ReflTransGen Ledger.Step l l') (hnd : l'.issued.Nodup)
    (ht : t ∈ l.issued) (hi : l.holds i ≠ some t) : l'.holds i ≠ some t := by
  induction hp with
  | refl => exact hi
  | tail hpre hs ih =>
    have hnd' := hnd.sublist hs.issued.sublist
    exact hs.not_regranted hnd ((issued_suffix hpre).subset ht) (ih hnd')

end Token
