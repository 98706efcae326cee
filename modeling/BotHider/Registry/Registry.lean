import BotHider.Lib.Run
import BotHider.Lib.Token
import BotHider.Model.Manager
import Mathlib.Data.Finset.Card
import Mathlib.Data.Fintype.Card

/-!
# BotHider — the identity registry

What the plugin is for, without clients, hooks or frames: a registry that lends
identities from a fixed pool to slots. Each adoption gets an identity nobody has
and a fresh incarnation; an identity can be renumbered while it is out; a release
gives it back.

`Registry.Good` is the invariant of every step:

* `coupled` — a slot is managed exactly when an entry is bound to it, and exactly
  when its incarnation is not zero.
* `unique` — managed slots have different, nonzero SteamIDs.
* `request` — an avatar request belongs to the slot's own lifetime.

`card_assigned` counts: as many entries are assigned as slots are managed.
-/

namespace BotHider.Model

/-! ## States -/

/-- What the registry keeps of a slot. -/
structure Holding where
  managed : Bool := false
  incarnation : UInt64 := 0
  steamId : UInt64 := 0
  name : Bytes := []
  entry : Option Nat := none
  request : AvatarRequest := {}
  avatarApplied : Bool := false
  avatarSteamId : UInt64 := 0

/-- The slots' holdings, the pool's SteamIDs with its assigned bits, and the
incarnation counter with what it handed out, newest first. -/
@[ext]
structure Registry where
  holding : Slot → Holding
  steamIds : List UInt64
  assigned : List Bool
  nextIncarnation : UInt64
  issued : List UInt64

/-- A slot given up: nothing is left but the request's sequence. -/
def Holding.released (h : Holding) : Holding :=
  { request := { sequence := h.request.sequence + 1 } }

/-- A slot given an entry under a name. -/
def Holding.adopted (h : Holding) (entry : Nat) (steamId incarnation : UInt64) (name : Bytes) :
    Holding :=
  { managed := true
    incarnation, steamId, name
    entry := some entry
    request := { sequence := h.request.sequence + 1 } }

/-- A slot with a new avatar request. -/
def Holding.requested (h : Holding) (data : Bytes) : Holding :=
  { h with
    request :=
      { sequence := h.request.sequence + 1
        length := UInt32.ofNat data.length
        incarnation := h.incarnation
        data }
    avatarApplied := false
    avatarSteamId := 0 }

/-- A slot with a new published avatar state. -/
def Holding.published (h : Holding) (applied : Bool) (steamId : UInt64) : Holding :=
  { h with
    avatarApplied := applied
    avatarSteamId := if applied then steamId else 0 }

namespace Registry

variable (r : Registry)

/-- Replaces one slot's holding. -/
def set (slot : Slot) (h : Holding) : Registry :=
  { r with holding := Function.update r.holding slot h }

/-- The registry after an adoption. -/
def adopt (slot : Slot) (entry : Nat) (steamId : UInt64) (name : Bytes) : Registry :=
  let incarnation := FakeClientManager.bumpIncarnation r.nextIncarnation
  { r with
    holding := Function.update r.holding slot
      ((r.holding slot).adopted entry steamId incarnation name)
    assigned := r.assigned.set entry true
    nextIncarnation := incarnation
    issued := incarnation :: r.issued }

/-- The registry after a release. -/
def release (slot : Slot) : Registry :=
  { r with
    holding := Function.update r.holding slot (r.holding slot).released
    assigned :=
      match (r.holding slot).entry with
      | none => r.assigned
      | some entry => r.assigned.set entry false }

/-- The registry after every slot is released. -/
def releaseAll : Registry :=
  { r with
    holding := fun slot => (r.holding slot).released
    assigned := r.assigned.map fun _ => false }

@[simp] theorem set_holding_self (slot : Slot) (h : Holding) :
    (r.set slot h).holding slot = h := Function.update_self ..

@[simp] theorem set_holding_of_ne {slot t : Slot} (ht : t ≠ slot) (h : Holding) :
    (r.set slot h).holding t = r.holding t := Function.update_of_ne ht ..

@[simp] theorem adopt_holding_self (slot : Slot) (entry : Nat) (steamId : UInt64) (name : Bytes) :
    (r.adopt slot entry steamId name).holding slot =
      (r.holding slot).adopted entry steamId
        (FakeClientManager.bumpIncarnation r.nextIncarnation) name := Function.update_self ..

@[simp] theorem adopt_holding_of_ne {slot t : Slot} (ht : t ≠ slot) (entry : Nat)
    (steamId : UInt64) (name : Bytes) :
    (r.adopt slot entry steamId name).holding t = r.holding t := Function.update_of_ne ht ..

@[simp] theorem release_holding_self (slot : Slot) :
    (r.release slot).holding slot = (r.holding slot).released := Function.update_self ..

@[simp] theorem release_holding_of_ne {slot t : Slot} (ht : t ≠ slot) :
    (r.release slot).holding t = r.holding t := Function.update_of_ne ht ..

@[simp] theorem releaseAll_holding (slot : Slot) :
    r.releaseAll.holding slot = (r.holding slot).released := rfl

/-- No other managed slot has the SteamID. -/
def Fresh (slot : Slot) (steamId : UInt64) : Prop :=
  ∀ t, t ≠ slot → (r.holding t).managed = true → (r.holding t).steamId ≠ steamId

/-- What a call can do to who holds what. -/
inductive Lease : Registry → Registry → Prop
  | adopt (r : Registry) (slot : Slot) (entry : Nat) (steamId : UInt64) (name : Bytes)
      (unmanaged : (r.holding slot).managed = false) (free : r.assigned[entry]? = some false)
      (pool : r.steamIds[entry]? = some steamId) (fresh : r.Fresh slot steamId) :
      Lease r (r.adopt slot entry steamId name)
  | release (r : Registry) (slot : Slot) : Lease r (r.release slot)
  | releaseAll (r : Registry) : Lease r r.releaseAll
  | renumber (r : Registry) (slot : Slot) (steamId : UInt64)
      (managed : (r.holding slot).managed = true) (nonzero : steamId ≠ 0)
      (fresh : r.Fresh slot steamId) :
      Lease r (r.set slot { r.holding slot with steamId := steamId })
  | rename (r : Registry) (slot : Slot) (name : Bytes) :
      Lease r (r.set slot { r.holding slot with name := name })

/-- What a call can do to a registry: change who holds what, or replace an avatar
request. -/
inductive Move : Registry → Registry → Prop
  | lease {r r' : Registry} (h : Lease r r') : Move r r'
  | request (r : Registry) (slot : Slot) (data : Bytes)
      (managed : (r.holding slot).managed = true) (length : data.length ≤ kAvatarMaxBytes) :
      Move r (r.set slot ((r.holding slot).requested data))

/-- What can happen to a registry: a move, or an avatar pass publishing a slot's state. -/
inductive Step : Registry → Registry → Prop
  | move {r r' : Registry} (h : Move r r') : Step r r'
  | publish (r : Registry) (slot : Slot) (applied : Bool) (steamId : UInt64) :
      Step r (r.set slot ((r.holding slot).published applied steamId))

/-! ## The invariant -/

/-- A slot's holding makes sense on its own. -/
structure Coupled (h : Holding) : Prop where
  entry : h.managed = true ↔ h.entry ≠ none
  incarnation : h.managed = true ↔ h.incarnation ≠ 0
  steamId : h.managed = true → h.steamId ≠ 0
  length : h.request.length = UInt32.ofNat h.request.data.length
  size : h.request.data.length ≤ kAvatarMaxBytes
  request : h.request.incarnation = h.incarnation ∨ h.request.data = []
  unmanaged : h.managed = false → h.request.data = []

/-- The invariant of the registry. -/
structure Good : Prop where
  coupled : ∀ s, Coupled (r.holding s)
  pool : r.assigned.length = r.steamIds.length
  nonzero : ∀ sid ∈ r.steamIds, sid ≠ 0
  bound : ∀ s t i, (r.holding s).entry = some i → (r.holding t).entry = some i → s = t
  assigned : ∀ i, r.assigned[i]? = some true ↔ ∃ s, (r.holding s).entry = some i
  unique : ∀ s t, s ≠ t → (r.holding s).managed = true → (r.holding t).managed = true →
    (r.holding s).steamId ≠ (r.holding t).steamId

variable {r}

theorem coupled_empty (sequence : UInt32) : Coupled { request := { sequence } } :=
  ⟨by simp, by simp, by simp, rfl, Nat.zero_le _, Or.inr rfl, fun _ => rfl⟩

theorem coupled_released (h : Holding) : Coupled h.released := coupled_empty _

theorem coupled_adopted (h : Holding) (entry : Nat) {steamId incarnation : UInt64} (name : Bytes)
    (hsid : steamId ≠ 0) (hinc : incarnation ≠ 0) :
    Coupled (h.adopted entry steamId incarnation name) := by
  refine ⟨by simp [Holding.adopted], by simp [Holding.adopted, hinc], fun _ => hsid, rfl, ?_,
    Or.inr rfl, fun _ => rfl⟩
  exact Nat.zero_le _

theorem coupled_requested {h : Holding} (hc : Coupled h) (hm : h.managed = true) {data : Bytes}
    (hlen : data.length ≤ kAvatarMaxBytes) : Coupled (h.requested data) := by
  refine ⟨hc.entry, hc.incarnation, hc.steamId, rfl, hlen, Or.inl rfl, fun hu => ?_⟩
  rw [show (h.requested data).managed = h.managed from rfl, hm] at hu
  cases hu

/-- Replacing a slot's holding keeps the invariant when entry, managed mark and SteamID
stay as they are. -/
theorem Good.set (hg : r.Good) {slot : Slot} {h : Holding} (hc : Coupled h)
    (hentry : h.entry = (r.holding slot).entry)
    (hsid : ∀ t, t ≠ slot → h.managed = true → (r.holding t).managed = true →
      h.steamId ≠ (r.holding t).steamId) :
    (r.set slot h).Good := by
  have hent : ∀ s, ((r.set slot h).holding s).entry = (r.holding s).entry := by
    intro s
    rcases eq_or_ne s slot with rfl | hs
    · rw [set_holding_self, hentry]
    · rw [set_holding_of_ne r hs]
  refine ⟨fun s => ?_, hg.pool, hg.nonzero, fun s t i => ?_, fun i => ?_, fun s t hst => ?_⟩
  · rcases eq_or_ne s slot with rfl | hs
    · rwa [set_holding_self]
    · rw [set_holding_of_ne r hs]
      exact hg.coupled s
  · rw [hent, hent]
    exact hg.bound s t i
  · simp only [hent]
    exact hg.assigned i
  · rcases eq_or_ne s slot with rfl | hs
    · rw [set_holding_self, set_holding_of_ne r (Ne.symm hst)]
      exact hsid t (Ne.symm hst)
    · rw [set_holding_of_ne r hs]
      rcases eq_or_ne t slot with rfl | ht
      · rw [set_holding_self]
        exact fun hm hm' => (hsid s hs hm' hm).symm
      · rw [set_holding_of_ne r ht]
        exact hg.unique s t hst

theorem Good.adopt (hg : r.Good) {slot : Slot} {entry : Nat} {steamId : UInt64} (name : Bytes)
    (hm : (r.holding slot).managed = false) (hfree : r.assigned[entry]? = some false)
    (hpool : r.steamIds[entry]? = some steamId) (hfresh : r.Fresh slot steamId) :
    (r.adopt slot entry steamId name).Good := by
  have hnz : steamId ≠ 0 := hg.nonzero steamId (List.mem_of_getElem? hpool)
  have hnone : (r.holding slot).entry = none := by
    by_contra hne
    rw [(hg.coupled slot).entry.mpr hne] at hm
    cases hm
  -- the entry is free, so by `assigned` no slot is bound to it
  have hunbound : ∀ s, (r.holding s).entry ≠ some entry := by
    intro s hs
    rw [(hg.assigned entry).mpr ⟨s, hs⟩] at hfree
    cases hfree
  -- the bindings afterwards: the new one and all that were there
  have hent : ∀ s i, ((r.adopt slot entry steamId name).holding s).entry = some i ↔
      (s = slot ∧ i = entry) ∨ (r.holding s).entry = some i := by
    intro s i
    rcases eq_or_ne s slot with rfl | hs
    · rw [adopt_holding_self, hnone]
      simp [Holding.adopted, eq_comm]
    · rw [adopt_holding_of_ne r hs]
      simp [hs]
  refine ⟨fun s => ?_, ?_, hg.nonzero, fun s t i => ?_, fun i => ?_, fun s t hst => ?_⟩
  · rcases eq_or_ne s slot with rfl | hs
    · rw [adopt_holding_self]
      exact coupled_adopted _ _ _ hnz (FakeClientManager.bumpIncarnation_ne_zero _)
    · rw [adopt_holding_of_ne r hs]
      exact hg.coupled s
  · exact (List.length_set ..).trans hg.pool
  · rw [hent, hent]
    rintro (⟨rfl, rfl⟩ | hs) (⟨rfl, hi⟩ | ht)
    · rfl
    · exact absurd ht (hunbound t)
    · rw [hi] at hs
      exact absurd hs (hunbound s)
    · exact hg.bound s t i hs ht
  · simp only [hent]
    have hlt : entry < r.assigned.length := (List.getElem?_eq_some_iff.mp hfree).1
    change (r.assigned.set entry true)[i]? = some true ↔ _
    rcases eq_or_ne entry i with rfl | hi
    · rw [List.getElem?_set_self hlt]
      exact ⟨fun _ => ⟨slot, Or.inl ⟨rfl, rfl⟩⟩, fun _ => rfl⟩
    · rw [List.getElem?_set_ne hi, hg.assigned i]
      constructor
      · rintro ⟨s, hs⟩
        exact ⟨s, Or.inr hs⟩
      · rintro ⟨s, ⟨-, rfl⟩ | hs⟩
        · exact absurd rfl hi
        · exact ⟨s, hs⟩
  · rcases eq_or_ne s slot with rfl | hs
    · rw [adopt_holding_self, adopt_holding_of_ne r (Ne.symm hst)]
      exact fun _ ht => (hfresh t (Ne.symm hst) ht).symm
    · rw [adopt_holding_of_ne r hs]
      rcases eq_or_ne t slot with rfl | ht
      · rw [adopt_holding_self]
        exact fun hms _ => hfresh s hs hms
      · rw [adopt_holding_of_ne r ht]
        exact hg.unique s t hst

theorem Good.release (hg : r.Good) (slot : Slot) : (r.release slot).Good := by
  -- the bindings afterwards: all but the slot's own
  have hent : ∀ s i, ((r.release slot).holding s).entry = some i ↔
      s ≠ slot ∧ (r.holding s).entry = some i := by
    intro s i
    rcases eq_or_ne s slot with rfl | hs
    · simp [Holding.released]
    · simp [hs]
  have hman : ∀ s, ((r.release slot).holding s).managed = true →
      s ≠ slot ∧ (r.holding s).managed = true := by
    intro s hs
    rcases eq_or_ne s slot with rfl | hne
    · rw [release_holding_self] at hs
      cases hs
    · rw [release_holding_of_ne r hne] at hs
      exact ⟨hne, hs⟩
  refine ⟨fun s => ?_, ?_, hg.nonzero, fun s t i => ?_, fun i => ?_, fun s t hst hs ht => ?_⟩
  · rcases eq_or_ne s slot with rfl | hs
    · rw [release_holding_self]
      exact coupled_released _
    · rw [release_holding_of_ne r hs]
      exact hg.coupled s
  · unfold Registry.release
    dsimp only
    split
    · exact hg.pool
    · rw [List.length_set]
      exact hg.pool
  · rw [hent, hent]
    exact fun h1 h2 => hg.bound s t i h1.2 h2.2
  · simp only [hent]
    unfold Registry.release
    dsimp only
    split
    · -- the slot had no entry, and the table of used entries stays
      rename_i hnone
      rw [hg.assigned i]
      refine ⟨fun ⟨s, hs⟩ => ⟨s, ?_, hs⟩, fun ⟨s, _, hs⟩ => ⟨s, hs⟩⟩
      rintro rfl
      rw [hnone] at hs
      cases hs
    · -- its entry is marked free, and `bound` says it was nobody else's
      rename_i entry hentry
      rcases eq_or_ne entry i with rfl | hi
      · rw [List.getElem?_set_self']
        refine ⟨fun h => ?_, fun ⟨s, hs, hse⟩ => absurd (hg.bound s slot _ hse hentry) hs⟩
        obtain ⟨_, -, h⟩ := Option.map_eq_some_iff.mp h
        cases h
      · rw [List.getElem?_set_ne hi, hg.assigned i]
        refine ⟨fun ⟨s, hs⟩ => ⟨s, ?_, hs⟩, fun ⟨s, _, hs⟩ => ⟨s, hs⟩⟩
        rintro rfl
        rw [hentry] at hs
        exact hi (Option.some.inj hs)
  · obtain ⟨hsne, hs⟩ := hman s hs
    obtain ⟨htne, ht⟩ := hman t ht
    rw [release_holding_of_ne r hsne, release_holding_of_ne r htne]
    exact hg.unique s t hst hs ht

theorem Good.releaseAll (hg : r.Good) : r.releaseAll.Good := by
  refine ⟨fun s => coupled_released _, (List.length_map ..).trans hg.pool, hg.nonzero, ?_, ?_, ?_⟩
  · intro s t i h
    cases h
  · intro i
    rw [show r.releaseAll.assigned = r.assigned.map fun _ => false from rfl, List.getElem?_map]
    cases r.assigned[i]? <;> simp [Holding.released]
  · intro s t _ h
    cases h

/-- A registry whose identities are all at home. -/
theorem good_of_empty (hholding : ∀ s, r.holding s = {})
    (hassigned : r.assigned = List.replicate r.steamIds.length false)
    (hnonzero : ∀ sid ∈ r.steamIds, sid ≠ 0) : r.Good := by
  refine ⟨fun s => ?_, ?_, hnonzero, fun s t i h => ?_, fun i => ?_, fun s t _ h => ?_⟩
  · rw [hholding]
    exact coupled_empty 0
  · rw [hassigned, List.length_replicate]
  · rw [hholding] at h
    cases h
  · simp [hholding, hassigned, List.getElem?_replicate]
  · rw [hholding] at h
    cases h

theorem Good.lease {r' : Registry} (hg : r.Good) (h : Lease r r') : r'.Good := by
  cases h with
  | adopt slot entry steamId name hm hfree hpool hfresh =>
    exact hg.adopt name hm hfree hpool hfresh
  | release slot => exact hg.release slot
  | releaseAll => exact hg.releaseAll
  | renumber slot steamId hm hnz hfresh =>
    have hc := hg.coupled slot
    exact hg.set ⟨hc.entry, hc.incarnation, fun _ => hnz, hc.length, hc.size, hc.request,
      hc.unmanaged⟩ rfl fun t ht _ hmt => (hfresh t ht hmt).symm
  | rename slot name =>
    have hc := hg.coupled slot
    exact hg.set ⟨hc.entry, hc.incarnation, hc.steamId, hc.length, hc.size, hc.request,
      hc.unmanaged⟩ rfl fun t ht => hg.unique slot t (Ne.symm ht)

theorem Good.move {r' : Registry} (hg : r.Good) (h : Move r r') : r'.Good := by
  cases h with
  | lease h => exact hg.lease h
  | request slot data hm hlen =>
    exact hg.set (coupled_requested (hg.coupled slot) hm hlen) rfl
      fun t ht => hg.unique slot t (Ne.symm ht)

/-- **Step lemma.** Every step keeps the invariant. -/
theorem Good.step {r' : Registry} (hg : r.Good) (h : Step r r') : r'.Good := by
  cases h with
  | move h => exact hg.move h
  | publish slot applied steamId =>
    have hc := hg.coupled slot
    exact hg.set ⟨hc.entry, hc.incarnation, hc.steamId, hc.length, hc.size, hc.request,
      hc.unmanaged⟩ rfl fun t ht => hg.unique slot t (Ne.symm ht)

/-- **Run lemma.** So does every path. -/
theorem Good.path {r' : Registry} (hg : r.Good) (h : Relation.ReflTransGen Step r r') :
    r'.Good :=
  Runs.path_invariant hg (fun _ _ => Good.step) h

/-! ## Counting -/

/-- The indices a list of bits marks, counted. -/
theorem count_true_eq_card (l : List Bool) :
    l.count true = ((Finset.range l.length).filter fun i => l[i]? = some true).card := by
  induction l using List.reverseRecOn with
  | nil => rfl
  | append_singleton l b ih =>
    have hl : (Finset.range l.length).filter (fun i => (l ++ [b])[i]? = some true) =
        (Finset.range l.length).filter fun i => l[i]? = some true := by
      refine Finset.filter_congr fun i hi => ?_
      rw [List.getElem?_append_left (Finset.mem_range.mp hi)]
    rw [List.count_append, ih, List.length_append, List.length_singleton,
      Finset.range_add_one, Finset.filter_insert, hl]
    cases b <;> simp

/-- As many entries are assigned as slots are managed. -/
theorem card_assigned (hg : r.Good) :
    r.assigned.count true = (Finset.univ.filter fun s => (r.holding s).managed = true).card := by
  have hinj : Set.InjOn (fun s => ((r.holding s).entry).getD 0)
      (Finset.univ.filter fun s => (r.holding s).managed = true : Finset Slot) := by
    intro s hs t ht heq
    simp only [Finset.coe_filter, Finset.mem_univ, true_and, Set.mem_ofPred_eq] at hs ht
    obtain ⟨i, hi⟩ := Option.ne_none_iff_exists'.mp ((hg.coupled s).entry.mp hs)
    obtain ⟨j, hj⟩ := Option.ne_none_iff_exists'.mp ((hg.coupled t).entry.mp ht)
    dsimp only at heq
    rw [hi, hj, Option.getD_some, Option.getD_some] at heq
    rw [← heq] at hj
    exact hg.bound s t i hi hj
  rw [count_true_eq_card, ← Finset.card_image_of_injOn hinj]
  congr 1
  ext i
  simp only [Finset.mem_filter, Finset.mem_range, Finset.mem_image, Finset.mem_univ, true_and]
  constructor
  · rintro ⟨-, hi⟩
    obtain ⟨s, hs⟩ := (hg.assigned i).mp hi
    refine ⟨s, (hg.coupled s).entry.mpr ?_, ?_⟩ <;> rw [hs]
    · exact Option.some_ne_none i
    · rfl
  · rintro ⟨s, hm, rfl⟩
    obtain ⟨i, hi⟩ := Option.ne_none_iff_exists'.mp ((hg.coupled s).entry.mp hm)
    have := (hg.assigned i).mpr ⟨s, hi⟩
    rw [hi, Option.getD_some]
    exact ⟨(List.getElem?_eq_some_iff.mp this).1, this⟩

/-! ## Incarnations -/

/-- Who holds which incarnation, and every one handed out. -/
def ledger (r : Registry) : Token.Ledger Slot UInt64 where
  holds s := if (r.holding s).managed then some (r.holding s).incarnation else none
  issued := r.issued

/-- A step that hands nothing out and changes no holder's incarnation, except to take
it away, is a step of the ledger. -/
theorem ledger_step_of_keep {r' : Registry} (hissued : r'.issued = r.issued)
    (hkeep : ∀ s, (r'.holding s).managed = true →
      (r.holding s).managed = true ∧ (r'.holding s).incarnation = (r.holding s).incarnation) :
    r.ledger.Step r'.ledger := by
  refine ⟨?_, fun s t ht => Or.inl ?_⟩
  · rw [show r'.ledger.issued = r.ledger.issued from hissued]
  · unfold ledger at ht ⊢
    dsimp only at ht ⊢
    split at ht
    · rename_i hm
      obtain ⟨hm', hinc⟩ := hkeep s hm
      rw [if_pos hm', ← hinc]
      exact ht
    · cases ht

theorem set_keep {slot : Slot} {h : Holding} (hm : h.managed = (r.holding slot).managed)
    (hinc : h.incarnation = (r.holding slot).incarnation) (s : Slot)
    (hs : ((r.set slot h).holding s).managed = true) :
    (r.holding s).managed = true ∧
      ((r.set slot h).holding s).incarnation = (r.holding s).incarnation := by
  rcases eq_or_ne s slot with rfl | hne
  · rw [set_holding_self] at hs ⊢
    exact ⟨hm ▸ hs, hinc⟩
  · rw [set_holding_of_ne r hne] at hs ⊢
    exact ⟨hs, rfl⟩

theorem Lease.ledger {r r' : Registry} (h : Lease r r') : r.ledger.Step r'.ledger := by
  cases h with
  | adopt slot entry steamId name =>
    refine ⟨List.suffix_cons _ _, fun s t ht => ?_⟩
    rcases eq_or_ne s slot with rfl | hs
    · refine Or.inr ⟨r.issued, List.suffix_rfl, ?_⟩
      unfold Registry.ledger at ht ⊢
      dsimp only at ht ⊢
      rw [adopt_holding_self] at ht
      rw [← Option.some.inj ht]
      exact List.suffix_rfl
    · refine Or.inl ?_
      unfold Registry.ledger at ht ⊢
      dsimp only at ht ⊢
      rwa [adopt_holding_of_ne r hs] at ht
  | release slot =>
    refine ledger_step_of_keep rfl fun s hs => ?_
    rcases eq_or_ne s slot with rfl | hne
    · rw [release_holding_self] at hs
      cases hs
    · rw [release_holding_of_ne r hne] at hs ⊢
      exact ⟨hs, rfl⟩
  | releaseAll =>
    refine ledger_step_of_keep rfl fun s hs => ?_
    cases hs
  | renumber slot steamId => exact ledger_step_of_keep rfl (set_keep rfl rfl)
  | rename slot name => exact ledger_step_of_keep rfl (set_keep rfl rfl)

/-- Every step of the registry is a step of its ledger. -/
theorem Step.ledger {r r' : Registry} (h : Step r r') : r.ledger.Step r'.ledger := by
  cases h with
  | move h =>
    cases h with
    | lease h => exact h.ledger
    | request slot data => exact ledger_step_of_keep rfl (set_keep rfl rfl)
  | publish slot applied steamId => exact ledger_step_of_keep rfl (set_keep rfl rfl)

/-- The ledger follows the registry along a path. -/
theorem ledger_path {r r' : Registry} (h : Relation.ReflTransGen Step r r') :
    Relation.ReflTransGen Token.Ledger.Step r.ledger r'.ledger :=
  h.lift ledger fun _ _ hs => Step.ledger hs

/-- The incarnations handed out are the first values of the counter from `start`. -/
def Counted (start : UInt64) (r : Registry) : Prop :=
  r.issued.reverse.map UInt64.toNat = Token.bumps (2 ^ 64 - 1) start.toNat r.issued.length ∧
    r.nextIncarnation.toNat = (Token.bump (2 ^ 64 - 1))^[r.issued.length] start.toNat

theorem Counted.lease {start : UInt64} {r r' : Registry} (hc : r.Counted start)
    (h : Lease r r') : r'.Counted start := by
  cases h with
  | adopt slot entry steamId name =>
    have hnext : (FakeClientManager.bumpIncarnation r.nextIncarnation).toNat =
        (Token.bump (2 ^ 64 - 1))^[r.issued.length + 1] start.toNat := by
      rw [FakeClientManager.toNat_bumpIncarnation, hc.2, Function.iterate_succ_apply']
    refine ⟨?_, hnext⟩
    change (_ :: r.issued).reverse.map UInt64.toNat = Token.bumps _ _ (r.issued.length + 1)
    rw [List.reverse_cons, List.map_append, hc.1, Token.bumps_succ, List.map_singleton, hnext]
  | _ => exact hc

theorem Counted.step {start : UInt64} {r r' : Registry} (hc : r.Counted start)
    (h : Step r r') : r'.Counted start := by
  cases h with
  | move h =>
    cases h with
    | lease h => exact hc.lease h
    | request => exact hc
  | publish => exact hc

/-- **Fresh incarnations.** Fewer than `2^64 - 1` of them are nonzero and pairwise
distinct. -/
theorem Counted.issued {start : UInt64} (hc : r.Counted start)
    (hlt : r.issued.length < 2 ^ 64 - 1) : r.issued.Nodup ∧ (0 : UInt64) ∉ r.issued := by
  constructor
  · have hnd : (r.issued.reverse.map UInt64.toNat).Nodup := by
      rw [hc.1]
      exact Token.bumps_nodup hlt.le
    exact List.nodup_reverse.mp (List.Nodup.of_map _ hnd)
  · intro h0
    have hmem : (0 : Nat) ∈ r.issued.reverse.map UInt64.toNat :=
      List.mem_map.mpr ⟨0, List.mem_reverse.mpr h0, rfl⟩
    rw [hc.1] at hmem
    exact absurd (Token.pos_of_mem_bumps hmem) (Nat.lt_irrefl 0)

end Registry

end BotHider.Model
