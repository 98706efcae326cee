import BotHider.Lib.Footprint

/-!
# A fixed part and its cells

A memory may have a part that is only read and that says where the cells lie which are
written. When no cell overlaps the fixed part or another cell, a write to one is what it
seems: the fixed part, and with it the place of every cell, is as before, the cell has the
value, and no other has changed.

* `Layout.Laid` — the cells are apart.
* `Layout.laid_write`, `Layout.fixed_write` — a write keeps the layout.
* `Layout.value_write_self`, `Layout.value_write_of_ne` — the values after it.
* `Layout.Outside` — memories that differ in cells only.
-/

/-- A fixed part, and where it says that each cell lies: the first address and the length. -/
structure Layout (σ ι : Type) where
  fixed : Read σ
  span : σ → ι → Option (Nat × Nat)

namespace Layout

variable {σ ι : Type} (L : Layout σ ι) (m : Memory)

/-- Where the cell lies. -/
def spanIn (i : ι) : Option (Nat × Nat) := L.span (L.fixed.run m) i

/-- The addresses of the cell. -/
def cell (i : ι) : Set Nat :=
  match L.spanIn m i with
  | none => ∅
  | some s => Set.Ico s.1 (s.1 + s.2)

/-- The cells are apart from the fixed part and from each other. -/
structure Laid : Prop where
  fixed : ∀ i, ∀ a ∈ L.fixed.uses m, a ∉ L.cell m i
  cells : ∀ i j, i ≠ j → ∀ a ∈ L.cell m i, a ∉ L.cell m j

/-- What the cell holds, `0` where there is none. -/
def value (i : ι) : Nat :=
  match L.spanIn m i with
  | none => 0
  | some s => (loadLE s.1 s.2).run m

/-- The memory with the cell written, if there is one. -/
def write (i : ι) (v : Nat) : Memory :=
  match L.spanIn m i with
  | none => m
  | some s => storeLE s.1 s.2 v m

variable {L m} {i j : ι} {v : Nat}

theorem write_of_span {s : Nat × Nat} (hs : L.spanIn m i = some s) :
    L.write m i v = storeLE s.1 s.2 v m := by
  unfold write
  rw [hs]

theorem value_of_span {s : Nat × Nat} (hs : L.spanIn m i = some s) :
    L.value m i = (loadLE s.1 s.2).run m := by
  unfold value
  rw [hs]

/-- A write changes addresses of the cell only. -/
theorem write_of_notMem {a : Nat} (ha : a ∉ L.cell m i) : L.write m i v a = m a := by
  unfold cell at ha
  unfold write
  cases hs : L.spanIn m i with
  | none => rfl
  | some s =>
    rw [hs] at ha
    exact storeLE_of_notMem ha

theorem run_write {α : Type} {x : Read α} (hx : ∀ a ∈ x.uses m, a ∉ L.cell m i) :
    x.run (L.write m i v) = x.run m ∧ x.uses (L.write m i v) = x.uses m :=
  Read.run_of_apart hx fun _ ha => write_of_notMem ha

theorem fixed_write (h : L.Laid m) : L.fixed.run (L.write m i v) = L.fixed.run m :=
  (run_write (h.fixed i)).1

theorem spanIn_write (h : L.Laid m) (j : ι) : L.spanIn (L.write m i v) j = L.spanIn m j := by
  unfold spanIn
  rw [fixed_write h]

theorem cell_write (h : L.Laid m) (j : ι) : L.cell (L.write m i v) j = L.cell m j := by
  unfold cell
  rw [spanIn_write h]

theorem laid_write (h : L.Laid m) : L.Laid (L.write m i v) where
  fixed j := by
    rw [(run_write (h.fixed i)).2, cell_write h]
    exact h.fixed j
  cells j k hne := by
    rw [cell_write h, cell_write h]
    exact h.cells j k hne

theorem value_write_self (h : L.Laid m) {s : Nat × Nat} (hs : L.spanIn m i = some s) :
    L.value (L.write m i v) i = v % 256 ^ s.2 := by
  rw [value_of_span ((spanIn_write h i).trans hs), write_of_span hs, run_loadLE_storeLE]

theorem value_write_of_ne (h : L.Laid m) (hne : j ≠ i) :
    L.value (L.write m i v) j = L.value m j := by
  cases hs : L.spanIn m j with
  | none =>
    unfold value
    rw [spanIn_write h, hs]
  | some s =>
    rw [value_of_span ((spanIn_write h j).trans hs), value_of_span hs]
    have hd := h.cells j i hne
    unfold cell at hd
    rw [hs] at hd
    exact (run_write hd).1

/-! ## Other addresses -/

/-- The memories have the same fixed part, with the same cells, and differ in cells only. -/
structure Outside (L : Layout σ ι) (m m' : Memory) : Prop where
  fixed : L.fixed.run m' = L.fixed.run m
  other : ∀ a, (∀ i, a ∉ L.cell m i) → m' a = m a

theorem Outside.refl (L : Layout σ ι) (m : Memory) : L.Outside m m := ⟨rfl, fun _ _ => rfl⟩

theorem Outside.cell {m' : Memory} (h : L.Outside m m') (i : ι) : L.cell m' i = L.cell m i := by
  unfold Layout.cell spanIn
  rw [h.fixed]

theorem Outside.trans {m' m'' : Memory} (h : L.Outside m m') (h' : L.Outside m' m'') :
    L.Outside m m'' :=
  ⟨h'.fixed.trans h.fixed, fun a ha =>
    (h'.other a fun i => by rw [h.cell]; exact ha i).trans (h.other a ha)⟩

theorem outside_write (h : L.Laid m) : L.Outside m (L.write m i v) :=
  ⟨fixed_write h, fun _ ha => write_of_notMem (ha i)⟩

end Layout
