import Mathlib.Data.Set.Lattice
import Mathlib.Algebra.Order.Ring.Nat

/-!
# Reads and their footprints

A computation that only reads a memory, together with the addresses it looks at. Where it
looks next may depend on what it has found, as with pointers; what it finds depends on
nothing else, so a memory that agrees on the footprint gives the same result.

* `Read` — such a computation; the footprint law is a field, so every composition has one.
* `Read.run_of_apart` — a change elsewhere is not noticed.
* `loadLE`, `storeLE` — numbers in consecutive bytes, the lowest first.
-/

/-- A memory of bytes. -/
abbrev Memory := Nat → UInt8

/-- A computation that reads a memory, and the addresses it looks at. -/
structure Read (α : Type) where
  find : Memory → α
  uses : Memory → Set Nat
  congr : ∀ {m m' : Memory}, (∀ a ∈ uses m, m' a = m a) → find m' = find m ∧ uses m' = uses m

namespace Read

variable {α β : Type} {m m' : Memory}

/-- What is found. -/
def run (x : Read α) (m : Memory) : α := x.find m

instance : Monad Read where
  pure x := ⟨fun _ => x, fun _ => ∅, fun _ => ⟨rfl, rfl⟩⟩
  bind x f :=
    { find := fun m => (f (x.find m)).find m
      uses := fun m => x.uses m ∪ (f (x.find m)).uses m
      congr := by
        intro m m' h
        obtain ⟨hr, hu⟩ := x.congr fun a ha => h a (.inl ha)
        obtain ⟨hr', hu'⟩ := (f (x.find m)).congr fun a ha => h a (.inr ha)
        rw [hr, hu, hr', hu']
        exact ⟨rfl, rfl⟩ }

/-- One address. -/
def at' (a : Nat) : Read UInt8 where
  find m := m a
  uses _ := {a}
  congr h := ⟨h a rfl, rfl⟩

/-- A family of reads. -/
def pi {ι : Type} (x : ι → Read α) : Read (ι → α) where
  find m i := (x i).find m
  uses m := ⋃ i, (x i).uses m
  congr h := by
    have hx := fun i => (x i).congr fun a ha => h a (Set.mem_iUnion.mpr ⟨i, ha⟩)
    exact ⟨funext fun i => (hx i).1, Set.iUnion_congr fun i => (hx i).2⟩

/-- The elements of a list, one after the other. -/
def forList {ι : Type} (x : ι → Read α) (l : List ι) : Read (List α) where
  find m := l.map fun i => (x i).find m
  uses m := ⋃ i ∈ l, (x i).uses m
  congr h := by
    have hx : ∀ i ∈ l, _ := fun i hi =>
      (x i).congr fun a ha => h a (Set.mem_iUnion₂.mpr ⟨i, hi, ha⟩)
    exact ⟨List.map_congr_left fun i hi => (hx i hi).1, Set.iUnion₂_congr fun i hi => (hx i hi).2⟩

-- These are not proved by `rfl` alone, so that `simp` leaves a proof of each step it takes and
-- nothing has to be evaluated to see that the sides agree.

@[simp] theorem run_pure (x : α) : (pure x : Read α).run m = x := (rfl)

@[simp] theorem run_bind (x : Read α) (f : α → Read β) :
    (x >>= f).run m = (f (x.run m)).run m := (rfl)

@[simp] theorem run_map (f : α → β) (x : Read α) : (f <$> x).run m = f (x.run m) := (rfl)

@[simp] theorem run_ite {c : Prop} [Decidable c] (x y : Read α) :
    (if c then x else y).run m = if c then x.run m else y.run m := by
  split <;> rfl

@[simp] theorem run_forList {ι : Type} (x : ι → Read α) (l : List ι) :
    (forList x l).run m = l.map fun i => (x i).run m := (rfl)

@[simp] theorem uses_pure (x : α) : (pure x : Read α).uses m = ∅ := (rfl)

@[simp] theorem uses_bind (x : Read α) (f : α → Read β) :
    (x >>= f).uses m = x.uses m ∪ (f (x.run m)).uses m := (rfl)

@[simp] theorem uses_map (f : α → β) (x : Read α) : (f <$> x).uses m = x.uses m :=
  Set.union_empty _

@[simp] theorem uses_ite {c : Prop} [Decidable c] (x y : Read α) :
    (if c then x else y).uses m = if c then x.uses m else y.uses m := by
  split <;> rfl

@[simp] theorem uses_pi {ι : Type} (x : ι → Read α) : (pi x).uses m = ⋃ i, (x i).uses m := (rfl)

@[simp] theorem uses_forList {ι : Type} (x : ι → Read α) (l : List ι) :
    (forList x l).uses m = ⋃ i ∈ l, (x i).uses m := (rfl)

/-- A read goes on from what was found. -/
theorem run_bind_of {x : Read α} {v : α} (hx : x.run m = v) (f : α → Read β) :
    (x >>= f).run m = (f v).run m := by
  rw [run_bind, hx]

theorem uses_bind_of {x : Read α} {v : α} (hx : x.run m = v) (f : α → Read β) :
    (x >>= f).uses m = x.uses m ∪ (f v).uses m := by
  rw [uses_bind, hx]

/-- A change outside the footprint leaves the result and the footprint alone. -/
theorem run_of_apart {x : Read α} {d : Set Nat} (hd : ∀ a ∈ x.uses m, a ∉ d)
    (h : ∀ a ∉ d, m' a = m a) : x.run m' = x.run m ∧ x.uses m' = x.uses m :=
  x.congr fun a ha => h a (hd a ha)

end Read

/-! ## Numbers in bytes -/

/-- The number in `n` bytes, the lowest first. -/
def leNat (f : Nat → UInt8) : Nat → Nat
  | 0 => 0
  | n + 1 => leNat f n + (f n).toNat * 256 ^ n

/-- The bytes of a number make its remainder. -/
theorem leNat_digits (v n : Nat) :
    leNat (fun i => UInt8.ofNat (v / 256 ^ i)) n = v % 256 ^ n := by
  induction n with
  | zero => simp [leNat, Nat.mod_one]
  | succ n ih =>
    have hbyte : (UInt8.ofNat (v / 256 ^ n)).toNat = v / 256 ^ n % 256 := rfl
    rw [leNat, ih, hbyte, Nat.mod_pow_succ, Nat.mul_comm]

/-- The number in the bytes from `a` on. -/
def loadLE (a n : Nat) : Read Nat where
  find m := leNat (fun i => m (a + i)) n
  uses _ := Set.Ico a (a + n)
  congr {m m'} h := by
    refine ⟨?_, rfl⟩
    -- by the number of bytes read so far, all of them inside the footprint
    have hle : ∀ k ≤ n, leNat (fun i => m' (a + i)) k = leNat (fun i => m (a + i)) k := by
      intro k
      induction k with
      | zero => exact fun _ => rfl
      | succ k ih =>
        intro hk
        rw [leNat, leNat, ih (by omega), h (a + k) ⟨by omega, by omega⟩]
    exact hle n le_rfl

@[simp] theorem uses_loadLE (a n : Nat) (m : Memory) : (loadLE a n).uses m = Set.Ico a (a + n) :=
  (rfl)

/-- Bytes that are zero make zero. -/
theorem run_loadLE_zero {a n : Nat} {m : Memory} (h : ∀ x ∈ Set.Ico a (a + n), m x = 0) :
    (loadLE a n).run m = 0 := by
  -- by the number of bytes read so far
  have hle : ∀ k ≤ n, leNat (fun i => m (a + i)) k = 0 := by
    intro k
    induction k with
    | zero => exact fun _ => rfl
    | succ k ih =>
      intro hk
      rw [leNat, ih (by omega), h (a + k) ⟨by omega, by omega⟩, UInt8.toNat_zero, Nat.zero_mul]
  exact hle n le_rfl

/-- The memory with a number put in the bytes from `a` on. -/
def storeLE (a n v : Nat) (m : Memory) : Memory := fun x =>
  if a ≤ x ∧ x < a + n then UInt8.ofNat (v / 256 ^ (x - a)) else m x

theorem storeLE_of_notMem {a n v x : Nat} {m : Memory} (h : x ∉ Set.Ico a (a + n)) :
    storeLE a n v m x = m x := if_neg h

theorem run_loadLE_storeLE (a n v : Nat) (m : Memory) :
    (loadLE a n).run (storeLE a n v m) = v % 256 ^ n := by
  rw [← leNat_digits]
  -- the bytes read are the digits written
  have hle : ∀ k ≤ n, leNat (fun i => storeLE a n v m (a + i)) k =
      leNat (fun i => UInt8.ofNat (v / 256 ^ i)) k := by
    intro k
    induction k with
    | zero => exact fun _ => rfl
    | succ k ih =>
      intro hk
      have hdigit : storeLE a n v m (a + k) = UInt8.ofNat (v / 256 ^ k) := by
        rw [storeLE, if_pos ⟨by omega, by omega⟩, Nat.add_sub_cancel_left]
      rw [leNat, leNat, ih (by omega), hdigit]
  exact hle n le_rfl
