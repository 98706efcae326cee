import Mathlib.Data.List.Nodup

/-!
# Queues with a grace period

A pass over a queue visits every element once: it drops the element, acts on it, or keeps
it for the next pass, which an element is granted a fixed number of times. The log beside
the queue numbers the elements and notes what was done with them.

* `Log.Sound` — tickets are apart, actions are safe, and ages are the passes waited.
* `Log.Sound.pass` — a pass keeps the log sound.
* `Log.Sound.bounded` — no element waits longer than its grace.
-/

namespace Grace

variable {σ α ρ κ : Type*}

/-- What a visit does with an element. -/
inductive Verdict (α ρ : Type*)
  | drop
  | act (r : ρ)
  | keep (a : α)

/-- A waiting element: its ticket, the passes made before it was queued, and what it is
now. -/
structure Entry (α : Type*) where
  ticket : ℕ
  since : ℕ
  item : α

/-- The elements ever queued, whose tickets are their places, those still waiting, the
actions with the tickets they were for, and the number of passes. -/
structure Log (α ρ : Type*) where
  queued : List α := []
  pending : List (Entry α) := []
  acts : List (ℕ × ρ) := []
  passes : ℕ := 0

namespace Log

/-- The queue itself. -/
def items (l : Log α ρ) : List α := l.pending.map Entry.item

/-- An element is queued. -/
def push (l : Log α ρ) (a : α) : Log α ρ :=
  { l with
    queued := l.queued ++ [a]
    pending := l.pending ++ [⟨l.queued.length, l.passes, a⟩] }

/-- The queue is emptied. -/
def clear (l : Log α ρ) : Log α ρ := { l with pending := [] }

/-- An emptied queue counts the pass that empties it. -/
def clearPass (l : Log α ρ) : Log α ρ := { l.clear with passes := l.passes + 1 }

/-- One visit of a pass. -/
def visit (f : σ → α → σ × Verdict α ρ) (s : σ × Log α ρ) (e : Entry α) : σ × Log α ρ :=
  ((f s.1 e.item).1, match (f s.1 e.item).2 with
    | .drop => s.2
    | .act r => { s.2 with acts := s.2.acts ++ [(e.ticket, r)] }
    | .keep a => { s.2 with pending := s.2.pending ++ [{ e with item := a }] })

/-- A pass over the queue. -/
def pass (f : σ → α → σ × Verdict α ρ) (s : σ) (l : Log α ρ) : σ × Log α ρ :=
  l.pending.foldl (visit f) (s, l.clearPass)

end Log

/-- One visit, without the log: the state and the elements kept so far. -/
def visit (f : σ → α → σ × Verdict α ρ) (s : σ × List α) (a : α) : σ × List α :=
  ((f s.1 a).1, match (f s.1 a).2 with
    | .keep b => s.2 ++ [b]
    | _ => s.2)

/-- What a visit may do: a kept element stays the same under `key` and ages by one within
its grace, and actions are safe. -/
structure Visits (f : σ → α → σ × Verdict α ρ) (I : σ → Prop) (key : α → κ) (age : α → ℕ)
    (grace : ℕ) (Safe : κ → ρ → Prop) : Prop where
  inv : ∀ s a, I s → I (f s a).1
  keep : ∀ s a b, I s → (f s a).2 = .keep b →
    key b = key a ∧ age b = age a + 1 ∧ age b ≤ grace
  act : ∀ s a r, I s → (f s a).2 = .act r → Safe (key a) r

namespace Log

/-! ## The log follows the queue -/

variable {f : σ → α → σ × Verdict α ρ}

theorem items_visit (s : σ × Log α ρ) (e : Entry α) :
    ((visit f s e).1, (visit f s e).2.items) = Grace.visit f (s.1, s.2.items) e.item := by
  unfold visit Grace.visit
  cases (f s.1 e.item).2 <;> simp [items]

/-- Without its log, a pass is the fold of its visits. -/
theorem items_pass (s : σ) (l : Log α ρ) :
    ((l.pass f s).1, (l.pass f s).2.items) = l.items.foldl (Grace.visit f) (s, []) := by
  have hfold : ∀ (es : List (Entry α)) (s : σ × Log α ρ),
      ((es.foldl (visit f) s).1, (es.foldl (visit f) s).2.items) =
        (es.map Entry.item).foldl (Grace.visit f) (s.1, s.2.items) := by
    intro es
    induction es with
    | nil => exact fun _ => rfl
    | cons e es ih =>
      intro s
      rw [List.foldl_cons, ih, List.map_cons, List.foldl_cons, ← items_visit]
  exact hfold l.pending (s, l.clearPass)

/-! ## Soundness -/

/-- In the middle of a pass that has yet to visit `rest`: tickets are apart and name what
was queued, actions are safe, and an element has waited as many passes as its age says. -/
structure Sound (key : α → κ) (age : α → ℕ) (grace : ℕ) (Safe : κ → ρ → Prop) (l : Log α ρ)
    (rest : List (Entry α)) : Prop where
  tickets : (l.acts.map Prod.fst ++ l.pending.map Entry.ticket ++ rest.map Entry.ticket).Nodup
  known : ∀ e ∈ l.pending ++ rest, ∃ a, l.queued[e.ticket]? = some a ∧ key a = key e.item
  safe : ∀ p ∈ l.acts, ∃ a, l.queued[p.1]? = some a ∧ Safe (key a) p.2
  aged : ∀ e ∈ l.pending, l.passes = e.since + age e.item ∧ age e.item ≤ grace
  waiting : ∀ e ∈ rest, l.passes = e.since + age e.item + 1 ∧ age e.item ≤ grace

variable {I : σ → Prop} {key : α → κ} {age : α → ℕ} {grace : ℕ} {Safe : κ → ρ → Prop}
  {l : Log α ρ}

theorem sound_empty : Sound key age grace Safe ({} : Log α ρ) [] :=
  ⟨List.nodup_nil, nofun, nofun, nofun, nofun⟩

/-- **Bounded stay.** -/
theorem Sound.bounded (h : Sound key age grace Safe l []) {e : Entry α} (he : e ∈ l.pending) :
    l.passes ≤ e.since + grace := by
  obtain ⟨hpasses, hage⟩ := h.aged e he
  omega

/-- A ticket in use names an element queued before. -/
theorem Sound.lt_queued (h : Sound key age grace Safe l []) {t : ℕ}
    (ht : t ∈ l.acts.map Prod.fst ++ l.pending.map Entry.ticket) : t < l.queued.length := by
  rcases List.mem_append.mp ht with ht | ht
  · obtain ⟨p, hp, rfl⟩ := List.mem_map.mp ht
    obtain ⟨a, ha, -⟩ := h.safe p hp
    exact (List.getElem?_eq_some_iff.mp ha).1
  · obtain ⟨e, he, rfl⟩ := List.mem_map.mp ht
    obtain ⟨a, ha, -⟩ := h.known e (List.mem_append_left _ he)
    exact (List.getElem?_eq_some_iff.mp ha).1

theorem getElem?_push {t : ℕ} {a b : α} (h : l.queued[t]? = some b) :
    (l.push a).queued[t]? = some b := by
  have hlt := (List.getElem?_eq_some_iff.mp h).1
  change (l.queued ++ [a])[t]? = some b
  rw [List.getElem?_append_left hlt]
  exact h

theorem Sound.push (h : Sound key age grace Safe l []) {a : α} (ha : age a = 0) :
    Sound key age grace Safe (l.push a) [] := by
  refine ⟨?_, fun e he => ?_, fun p hp => ?_, fun e he => ?_, nofun⟩
  · have hnew : l.queued.length ∉ l.acts.map Prod.fst ++ l.pending.map Entry.ticket :=
      fun hmem => Nat.lt_irrefl _ (h.lt_queued hmem)
    have hold := h.tickets
    simp only [List.map_nil, List.append_nil] at hold
    simp only [Log.push, List.map_append, List.map_cons, List.map_nil, List.append_nil]
    rw [← List.append_assoc]
    exact List.nodup_append.mpr ⟨hold, List.nodup_singleton _, fun t ht u hu heq => by
      rw [List.mem_singleton] at hu
      exact hnew (hu ▸ heq ▸ ht)⟩
  · simp only [Log.push, List.append_nil, List.mem_append, List.mem_singleton] at he
    rcases he with he | rfl
    · obtain ⟨b, hb, hkey⟩ := h.known e (List.mem_append_left _ he)
      exact ⟨b, getElem?_push hb, hkey⟩
    · exact ⟨a, by simp [Log.push], rfl⟩
  · obtain ⟨b, hb, hsafe⟩ := h.safe p hp
    exact ⟨b, getElem?_push hb, hsafe⟩
  · simp only [Log.push, List.mem_append, List.mem_singleton] at he
    rcases he with he | rfl
    · exact h.aged e he
    · simp [Log.push, ha]

theorem Sound.clear (h : Sound key age grace Safe l []) :
    Sound key age grace Safe l.clear [] := by
  refine ⟨?_, nofun, h.safe, nofun, nofun⟩
  have hold := h.tickets
  simp only [Log.clear, List.map_nil, List.append_nil] at hold ⊢
  exact (List.nodup_append.mp hold).1

theorem Sound.clearPass (h : Sound key age grace Safe l []) :
    Sound key age grace Safe l.clearPass [] := by
  have hc := h.clear
  exact ⟨hc.tickets, nofun, hc.safe, nofun, nofun⟩

/-- One visit keeps the log sound. -/
theorem Sound.visit (hf : Visits f I key age grace Safe) {s : σ} (hs : I s) {e : Entry α}
    {rest : List (Entry α)} (h : Sound key age grace Safe l (e :: rest)) :
    Sound key age grace Safe (Log.visit f (s, l) e).2 rest := by
  have hrest : ∀ e' ∈ rest, e' ∈ e :: rest := fun _ => List.mem_cons_of_mem _
  obtain ⟨hpasses, hage⟩ := h.waiting e List.mem_cons_self
  obtain ⟨a, ha, hkey⟩ := h.known e (List.mem_append_right _ List.mem_cons_self)
  have hknown : ∀ e' ∈ l.pending ++ rest, ∃ a, l.queued[e'.ticket]? = some a ∧
      key a = key e'.item := fun e' he' => h.known e' (by
    rcases List.mem_append.mp he' with hp | hr
    · exact List.mem_append_left _ hp
    · exact List.mem_append_right _ (hrest e' hr))
  have hwaiting := fun e' he' => h.waiting e' (hrest e' he')
  have htickets := h.tickets
  rw [List.map_cons] at htickets
  unfold Log.visit
  cases hv : (f s e.item).2 with
  | drop =>
    refine ⟨htickets.sublist ?_, hknown, h.safe, h.aged, hwaiting⟩
    exact List.Sublist.append_left (List.sublist_cons_self _ _) _
  | act r =>
    refine ⟨?_, hknown, fun p hp => ?_, h.aged, hwaiting⟩
    · -- the ticket moves from the unvisited to the acted upon
      refine (List.Perm.nodup_iff ?_).mp htickets
      simp only [List.map_append, List.map_cons, List.map_nil, List.append_assoc]
      exact List.Perm.append_left _ List.perm_middle
    · rcases List.mem_append.mp hp with hp | hp
      · exact h.safe p hp
      · obtain rfl := List.mem_singleton.mp hp
        exact ⟨a, ha, hkey ▸ hf.act s e.item r hs hv⟩
  | keep b =>
    obtain ⟨hsame, holder, hgrace⟩ := hf.keep s e.item b hs hv
    refine ⟨?_, fun e' he' => ?_, h.safe, fun e' he' => ?_, hwaiting⟩
    · simpa only [List.map_append, List.map_cons, List.map_nil, List.append_assoc,
        List.singleton_append] using htickets
    · simp only [List.mem_append, List.mem_singleton] at he'
      rcases he' with (he' | rfl) | he'
      · exact hknown e' (List.mem_append_left _ he')
      · exact ⟨a, ha, hkey.trans hsame.symm⟩
      · exact hknown e' (List.mem_append_right _ he')
    · simp only [List.mem_append, List.mem_singleton] at he'
      rcases he' with he' | rfl
      · exact h.aged e' he'
      · exact ⟨by dsimp only; omega, hgrace⟩

/-- **Pass.** A pass keeps the log sound. -/
theorem Sound.pass (hf : Visits f I key age grace Safe) {s : σ} (hs : I s)
    (h : Sound key age grace Safe l []) : Sound key age grace Safe (l.pass f s).2 [] := by
  have hfold : ∀ (es : List (Entry α)) (s : σ) (l : Log α ρ), I s →
      Sound key age grace Safe l es →
        Sound key age grace Safe (es.foldl (Log.visit f) (s, l)).2 [] := by
    intro es
    induction es with
    | nil => exact fun _ _ _ h => h
    | cons e es ih => exact fun s l hs h => ih _ _ (hf.inv s e.item hs) (h.visit hf hs)
  refine hfold l.pending s l.clearPass hs ⟨?_, fun e he => ?_, h.safe, nofun, fun e he => ?_⟩
  · simpa [Log.clearPass, Log.clear] using h.tickets
  · exact h.known e (by simpa [Log.clearPass, Log.clear] using he)
  · obtain ⟨hpasses, hage⟩ := h.aged e he
    exact ⟨congrArg (· + 1) hpasses, hage⟩

/-- A pass keeps some of the elements, in their order. -/
theorem keys_pass (hf : Visits f I key age grace Safe) {s : σ} (hs : I s) :
    ((l.pass f s).2.items.map key).Sublist (l.items.map key) := by
  have hfold : ∀ (as : List α) (s : σ) (kept : List α), I s →
      ((as.foldl (Grace.visit f) (s, kept)).2.map key).Sublist ((kept ++ as).map key) := by
    intro as
    induction as with
    | nil => simp
    | cons a as ih =>
      intro s kept hs
      refine (ih (f s a).1 _ (hf.inv s a hs)).trans ?_
      rw [List.map_append, List.map_append, List.map_cons]
      cases hv : (f s a).2 with
      | keep b =>
        obtain ⟨hsame, -⟩ := hf.keep s a b hs hv
        simp [hsame]
      | drop => exact List.Sublist.append_left (List.sublist_cons_self _ _) _
      | act r => exact List.Sublist.append_left (List.sublist_cons_self _ _) _
  have hitems := congrArg Prod.snd (items_pass (f := f) s l)
  dsimp only at hitems
  rw [hitems]
  simpa using hfold l.items s [] hs

end Log

end Grace
