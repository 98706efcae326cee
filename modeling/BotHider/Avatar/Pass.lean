import BotHider.Avatar.Table
import BotHider.Lib.Reconcile
import BotHider.Registry.Refinement

/-!
# BotHider — what a pass does to the table

`AvatarOverrides.view` reads a table as the store of `Reconcile`: the slots are its
writers, and `appliedSteamId` is the key a slot has to clean up.

* `processSlot_cases` — a slot's round is skipped, or it makes moves of that store and
  leaves the slot's record up to date.
* `processed_processSlot` — on a sound table a round whose calls go through is done.
-/

namespace BotHider.Model

open AvatarOverrides Reconcile
open World (PassEnv)

/-! ## The store -/

/-- The SteamID, if it is one. -/
def someSteamId (sid : UInt64) : Option UInt64 := if sid = 0 then none else some sid

@[simp] theorem someSteamId_zero : someSteamId 0 = none := rfl

theorem someSteamId_of_ne {sid : UInt64} (h : sid ≠ 0) : someSteamId sid = some sid := if_neg h

theorem someSteamId_eq_some {sid k : UInt64} (h : someSteamId sid = some k) : sid = k ∧ k ≠ 0 := by
  unfold someSteamId at h
  split at h
  · cases h
  · obtain rfl := Option.some.inj h
    exact ⟨rfl, ‹_›⟩

/-- The table at an address as a store, with the SteamIDs the slots have to clean up. `0`
is nobody's SteamID. -/
def AvatarOverrides.view (a : AvatarOverrides) (addr : Nat) : State Slot UInt64 Bytes where
  store sid := if sid = 0 then [] else (a.tables addr).data (formatAvatarSteamId sid)
  owns slot := someSteamId (a.states slot).appliedSteamId

variable {a : AvatarOverrides} {addr : Nat} {slot : Slot}

theorem view_ext {v : State Slot UInt64 Bytes} (hstore : ∀ sid, (a.view addr).store sid = v.store sid)
    (howns : ∀ t, (a.view addr).owns t = v.owns t) : a.view addr = v := by
  cases v
  exact congrArg₂ State.mk (funext hstore) (funext howns)

/-- A new record that has the same to clean up changes no store. -/
theorem view_setState {state : AvatarRuntimeState}
    (h : state.appliedSteamId = (a.states slot).appliedSteamId) :
    (a.setState slot state).view addr = a.view addr := by
  refine view_ext (fun _ => rfl) fun t => ?_
  change someSteamId (Function.update a.states slot state t).appliedSteamId = _
  rcases eq_or_ne t slot with rfl | ht
  · rw [Function.update_self, h]
    rfl
  · rw [Function.update_of_ne ht]
    rfl

@[simp] theorem tables_setTable (table : StringTable) :
    (a.setTable addr table).tables addr = table := Function.update_self ..

/-- A new table with the same data changes no store. -/
theorem view_setTable {table : StringTable} (h : ∀ sid, table.data (formatAvatarSteamId sid) =
    (a.tables addr).data (formatAvatarSteamId sid)) :
    (a.setTable addr table).view addr = a.view addr := by
  refine view_ext (fun sid => ?_) fun _ => rfl
  change (if sid = 0 then [] else ((a.setTable addr table).tables addr).data _) = _
  rw [tables_setTable, h]
  rfl

/-- The store after one SteamID's data changed in the table. -/
theorem store_setTable {table : StringTable} {sid : UInt64} {data : Bytes} (hsid : sid ≠ 0)
    (h : ∀ other, table.data (formatAvatarSteamId other) =
      if other = sid then data else (a.tables addr).data (formatAvatarSteamId other)) (k : UInt64) :
    ((a.setTable addr table).view addr).store k = Function.update (a.view addr).store sid data k := by
  change (if k = 0 then [] else ((a.setTable addr table).tables addr).data _) = _
  rw [tables_setTable, h]
  rcases eq_or_ne k sid with rfl | hk
  · rw [Function.update_self, if_neg hsid, if_pos rfl]
  · rw [Function.update_of_ne hk, if_neg hk]
    rfl

/-- Emptying a SteamID's data and forgetting it is the store's `clear`. -/
theorem view_clear {table : StringTable} {sid : UInt64} {state : AvatarRuntimeState}
    (hsid : sid ≠ 0) (htable : ∀ other, table.data (formatAvatarSteamId other) =
      if other = sid then [] else (a.tables addr).data (formatAvatarSteamId other))
    (hstate : state.appliedSteamId = 0) :
    ((a.setTable addr table).setState slot state).view addr = (a.view addr).clear [] slot sid := by
  refine view_ext (store_setTable hsid htable) fun t => ?_
  change someSteamId (Function.update a.states slot state t).appliedSteamId =
    Function.update (a.view addr).owns slot none t
  rcases eq_or_ne t slot with rfl | ht
  · rw [Function.update_self, Function.update_self, hstate]
    rfl
  · rw [Function.update_of_ne ht, Function.update_of_ne ht]
    rfl

/-- Setting a SteamID's data and taking it over is the store's `write`. -/
theorem view_write {table : StringTable} {sid : UInt64} {data : Bytes} {state : AvatarRuntimeState}
    (hsid : sid ≠ 0) (htable : ∀ other, table.data (formatAvatarSteamId other) =
      if other = sid then data else (a.tables addr).data (formatAvatarSteamId other))
    (hstate : state.appliedSteamId = sid) :
    (((a.setTable addr table).transfer sid).setState slot state).view addr =
      (a.view addr).write slot sid data := by
  refine view_ext (store_setTable hsid htable) fun t => ?_
  change someSteamId (Function.update (fun t => if (a.states t).appliedSteamId = sid then
    { a.states t with appliedSteamId := 0 } else a.states t) slot state t).appliedSteamId =
      if t = slot then some sid else if (a.view addr).owns t = some sid then none
        else (a.view addr).owns t
  rcases eq_or_ne t slot with rfl | ht
  · rw [Function.update_self, if_pos rfl, hstate, someSteamId_of_ne hsid]
  · rw [Function.update_of_ne ht, if_neg ht]
    dsimp only
    by_cases h : (a.states t).appliedSteamId = sid
    · have howns : (a.view addr).owns t = some sid := by
        change someSteamId (a.states t).appliedSteamId = _
        rw [h, someSteamId_of_ne hsid]
      rw [if_pos h, if_pos howns]
      rfl
    · have howns : (a.view addr).owns t ≠ some sid := fun he => h (someSteamId_eq_some he).1
      rw [if_neg h, if_neg howns]
      rfl

/-! ## Records -/

/-- A record without what it has to clean up. -/
def AvatarRuntimeState.forget (state : AvatarRuntimeState) : AvatarRuntimeState :=
  { state with appliedSteamId := 0 }

theorem AvatarRuntimeState.processed_congr {a b : AvatarRuntimeState} (h : a.forget = b.forget) :
    a.processed = b.processed :=
  (congrArg AvatarRuntimeState.processed h : a.forget.processed = b.forget.processed)

theorem AvatarRuntimeState.retryAt_congr {a b : AvatarRuntimeState} (h : a.forget = b.forget) :
    a.retryAt = b.retryAt :=
  (congrArg AvatarRuntimeState.retryAt h : a.forget.retryAt = b.forget.retryAt)

theorem refresh_forget (state : AvatarRuntimeState) (sequence : UInt32) (sid : UInt64) :
    (state.refresh sequence sid).forget = state.forget.refresh sequence sid := by
  unfold AvatarRuntimeState.refresh AvatarRuntimeState.forget
  dsimp only
  split <;> rfl

@[simp] theorem sequence_refresh (state : AvatarRuntimeState) (sequence : UInt32) (sid : UInt64) :
    (state.refresh sequence sid).sequence = sequence := by
  unfold AvatarRuntimeState.refresh
  split
  · rfl
  · rename_i h
    exact Classical.not_not.mp (not_or.mp h).1

@[simp] theorem steamId_refresh (state : AvatarRuntimeState) (sequence : UInt32) (sid : UInt64) :
    (state.refresh sequence sid).steamId = sid := by
  unfold AvatarRuntimeState.refresh
  split
  · rfl
  · rename_i h
    exact Classical.not_not.mp (not_or.mp h).2

@[simp] theorem appliedSteamId_refresh (state : AvatarRuntimeState) (sequence : UInt32)
    (sid : UInt64) : (state.refresh sequence sid).appliedSteamId = state.appliedSteamId := by
  unfold AvatarRuntimeState.refresh
  split <;> rfl

/-- A record that is not due was not started over. -/
theorem refresh_of_waiting {state : AvatarRuntimeState} {sequence : UInt32} {sid : UInt64}
    {now : Nat} (h : ((state.refresh sequence sid).processed ||
      now < (state.refresh sequence sid).retryAt) = true) :
    state.refresh sequence sid = state := by
  unfold AvatarRuntimeState.refresh at h ⊢
  split at h
  · simp at h
  · rename_i hsame
    rw [if_neg hsame]

theorem forget_setState {state : AvatarRuntimeState} (h : state.forget = (a.states slot).forget)
    (t : Slot) : ((a.setState slot state).states t).forget = (a.states t).forget := by
  change (Function.update a.states slot state t).forget = _
  rcases eq_or_ne t slot with rfl | ht
  · rw [Function.update_self, h]
  · rw [Function.update_of_ne ht]

@[simp] theorem states_setState_self (state : AvatarRuntimeState) :
    (a.setState slot state).states slot = state := Function.update_self ..

theorem states_setState_of_ne {t : Slot} (h : t ≠ slot) (state : AvatarRuntimeState) :
    (a.setState slot state).states t = a.states t := Function.update_of_ne h ..

theorem forget_transfer (sid : UInt64) (t : Slot) :
    ((a.transfer sid).states t).forget = (a.states t).forget := by
  unfold transfer
  dsimp only
  split <;> rfl

/-! ## The parts of a round -/

/-- What taking back a stale entry does. -/
structure Cleared (calls : TableCalls) (addr : Nat) (slot : Slot) (want : Option UInt64)
    (data : Bytes) (a : AvatarOverrides) (r : Bool × AvatarOverrides) : Prop where
  moves : State.Moves [] slot want data (a.view addr) (r.2.view addr)
  forget : ∀ t, (r.2.states t).forget = (a.states t).forget
  last : r.2.lastAvatarTable = a.lastAvatarTable
  failed : r.1 = false → r.2.states = a.states
  applied : r.1 = true → (r.2.states slot).appliedSteamId = 0 ∨
    (r.2.states slot).appliedSteamId = (r.2.states slot).steamId
  sound : (a.tables addr).Sound → (r.2.tables addr).Sound
  succeeds : (a.tables addr).Sound → calls.clear = true → r.1 = true

theorem cleared_clearStale (a : AvatarOverrides) (calls : TableCalls) (addr : Nat) (slot : Slot)
    (want : Option UInt64) (data : Bytes) :
    Cleared calls addr slot want data a (a.clearStale calls addr slot) := by
  have hdata := data_clearAvatarOverride (a.tables addr) (a.states slot).appliedSteamId calls
  have hsound := fun h : (a.tables addr).Sound => sound_clearAvatarOverride h
    (a.states slot).appliedSteamId calls
  unfold clearStale
  dsimp only
  split
  · rename_i hstale
    split
    · rename_i hok
      simp only [hok, true_and] at hdata
      have howns : (a.view addr).owns slot = some (a.states slot).appliedSteamId :=
        someSteamId_of_ne hstale.1
      refine ⟨?_, forget_setState rfl, rfl, fun h => absurd h (by simp), fun _ => Or.inl ?_,
        fun h => ?_, fun _ _ => rfl⟩
      · rw [view_clear hstale.1 hdata rfl]
        exact .single (.clear _ _ howns)
      · rw [states_setState_self]
      · change ((a.setTable addr _).tables addr).Sound
        rw [tables_setTable]
        exact hsound h
    · rename_i hfail
      refine ⟨?_, fun _ => rfl, rfl, fun _ => rfl, fun h => absurd h (by simp), fun h => ?_,
        fun h hc => ?_⟩
      · rw [view_setTable fun sid => (hdata sid).trans (if_neg fun h => hfail h.1)]
      · rw [tables_setTable]
        exact hsound h
      · exact absurd (clearAvatarOverride_of_sound h hstale.1 hc) hfail
  · rename_i hstale
    refine ⟨.refl, fun _ => rfl, rfl, fun _ => rfl, fun _ => ?_, id, fun _ _ => rfl⟩
    by_cases h0 : (a.states slot).appliedSteamId = 0
    · exact Or.inl h0
    · exact Or.inr (Classical.not_not.mp fun hne => hstale ⟨h0, hne⟩)

/-- What the rest of a round does, on a record that has nothing else to clean up. -/
structure Applied (calls : TableCalls) (addr : Nat) (slot : Slot) (m : FakeClientManager)
    (a : AvatarOverrides) (r : FakeClientManager × AvatarOverrides) : Prop where
  moves : State.Moves [] slot (someSteamId (a.states slot).steamId)
    (m.getAvatarRequest slot).data (a.view addr) (r.2.view addr)
  sequence : (r.2.states slot).sequence = (a.states slot).sequence
  steamId : (r.2.states slot).steamId = (a.states slot).steamId
  forget : ∀ t, t ≠ slot → (r.2.states t).forget = (a.states t).forget
  last : r.2.lastAvatarTable = a.lastAvatarTable
  published : r.1 = m ∨ r.1 = m.publishAvatarState slot true (a.states slot).steamId ∧
    (a.states slot).steamId ≠ 0 ∧ (r.2.states slot).processed = true
  settled : (r.2.states slot).processed = true → (r.2.view addr).Settled slot
    (someSteamId (a.states slot).steamId) (m.getAvatarRequest slot).data
  sound : (a.tables addr).Sound → (r.2.tables addr).Sound
  done : (a.tables addr).Sound → calls = {} → (r.2.states slot).processed = true

/-- A round that has to be tried again. -/
theorem applied_retry {calls : TableCalls} {m : FakeClientManager} {a' : AvatarOverrides}
    (now : Nat) (hproc : (a.states slot).processed = false) (hstates : a'.states = a.states)
    (hview : a'.view addr = a.view addr) (hlast : a'.lastAvatarTable = a.lastAvatarTable)
    (hsound : (a.tables addr).Sound → (a'.tables addr).Sound)
    (hfail : (a.tables addr).Sound → calls ≠ {}) :
    Applied calls addr slot m a (m, a'.setState slot ((a.states slot).retry now)) := by
  have hproc' : ((a'.setState slot ((a.states slot).retry now)).states slot).processed = false := by
    rw [states_setState_self]
    exact hproc
  refine ⟨?_, ?_, ?_, fun t ht => ?_, hlast, Or.inl rfl, fun h => ?_, hsound,
    fun h hc => absurd hc (hfail h)⟩
  · rw [view_setState (by rw [hstates]; rfl), hview]
  · rw [states_setState_self]
    rfl
  · rw [states_setState_self]
    rfl
  · rw [states_setState_of_ne ht, hstates]
  · rw [hproc'] at h
    cases h

theorem applied_applyRequest (m : FakeClientManager) (a : AvatarOverrides) (calls : TableCalls)
    (now addr : Nat) (slot : Slot) (hproc : (a.states slot).processed = false)
    (happl : (a.states slot).appliedSteamId = 0 ∨
      (a.states slot).appliedSteamId = (a.states slot).steamId) :
    Applied calls addr slot m a (a.applyRequest m calls now addr slot) := by
  have hdata := data_setAvatarOverride (a.tables addr) (a.states slot).steamId
    (m.getAvatarRequest slot).data calls
  have hsound := fun h : (a.tables addr).Sound => sound_setAvatarOverride h
    (a.states slot).steamId (m.getAvatarRequest slot).data calls
  unfold applyRequest
  dsimp only
  split
  · rename_i h0
    -- nothing to show: only the record changes
    have hnone : (a.states slot).appliedSteamId = 0 := by
      rcases happl with h | h
      · exact h
      · rw [h, h0]
    have hview : (a.setState slot { a.states slot with processed := true }).view addr =
        a.view addr := view_setState rfl
    refine ⟨?_, ?_, ?_, fun t ht => ?_, rfl, Or.inl rfl, fun _ => ?_, id, fun _ _ => ?_⟩
    · rw [hview]
    · rw [states_setState_self]
    · rw [states_setState_self]
    · rw [states_setState_of_ne ht]
    · rw [hview, h0]
      refine ⟨?_, fun k hk => by cases hk⟩
      change someSteamId (a.states slot).appliedSteamId = none
      rw [hnone]
      rfl
    · rw [states_setState_self]
  · rename_i h0
    split
    · rename_i hreliable
      refine applied_retry now hproc rfl rfl rfl id fun _ hc => ?_
      rw [hc] at hreliable
      cases hreliable
    · split
      · rename_i hfail
        simp only [Bool.not_eq_true'] at hfail
        refine applied_retry now hproc rfl (view_setTable fun sid => ?_) rfl (fun h => ?_)
          fun h hc => ?_
        · rw [hdata, hfail]
          exact if_neg fun h => by cases h.1
        · rw [tables_setTable]
          exact hsound h
        · rw [hc, setAvatarOverride_of_sound h h0] at hfail
          cases hfail
      · rename_i hok
        simp only [Bool.not_eq_true', Bool.not_eq_false] at hok
        simp only [hok, true_and] at hdata
        have hfree : (a.view addr).owns slot = none ∨
            (a.view addr).owns slot = some (a.states slot).steamId := by
          change someSteamId (a.states slot).appliedSteamId = none ∨
            someSteamId (a.states slot).appliedSteamId = _
          rcases happl with h | h
          · exact Or.inl (by rw [h]; rfl)
          · exact Or.inr (by rw [h, someSteamId_of_ne h0])
        refine ⟨?_, ?_, ?_, fun t ht => ?_, rfl, Or.inr ⟨rfl, h0, ?_⟩, fun _ => ?_, fun h => ?_,
          fun _ _ => ?_⟩
        · rw [view_write h0 hdata rfl]
          exact .single (.write _ _ (someSteamId_of_ne h0) hfree)
        · rw [states_setState_self]
        · rw [states_setState_self]
        · rw [states_setState_of_ne ht, forget_transfer]
          rfl
        · rw [states_setState_self]
        · rw [view_write h0 hdata rfl, someSteamId_of_ne h0]
          exact State.settled_write _ _ _ _
        · change ((a.setTable addr _).tables addr).Sound
          rw [tables_setTable]
          exact hsound h
        · rw [states_setState_self]

/-! ## A slot's round -/

section Publishing

variable {m m' : FakeClientManager}

theorem slots_publishAvatarState_of_ne {t : Slot} (h : t ≠ slot) (applied : Bool) (sid : UInt64) :
    (m.publishAvatarState slot applied sid).slots t = m.slots t :=
  m.modifySnapshot_slots_of_ne h _

theorem snapshot_publishAvatarState_self (applied : Bool) (sid : UInt64) :
    ((m.publishAvatarState slot applied sid).slots slot).snapshot =
      { (m.slots slot).snapshot with
        avatarApplied := applied
        avatarSteamId := if applied then sid else 0 } :=
  m.modifySnapshot_snapshot_self slot _

theorem Published.getAvatarRequest (h : Published m m') (t : Slot) :
    m'.getAvatarRequest t = m.getAvatarRequest t := by
  induction h with
  | refl => rfl
  | step slot applied sid _ ih =>
    exact (FakeClientManager.modifySnapshot_avatar ..).trans ih

/-- Publishing changes nobody's identity. -/
theorem Published.identity (h : Published m m') (t : Slot) :
    m'.isManaged t = m.isManaged t ∧ m'.getIncarnation t = m.getIncarnation t ∧
      m'.getSyntheticSid t = m.getSyntheticSid t := by
  induction h with
  | refl => exact ⟨rfl, rfl, rfl⟩
  | @step m' slot applied sid _ ih =>
    unfold FakeClientManager.isManaged FakeClientManager.getIncarnation
      FakeClientManager.getSyntheticSid at ih ⊢
    rcases eq_or_ne t slot with rfl | ht
    · rw [snapshot_publishAvatarState_self]
      exact ih
    · rw [slots_publishAvatarState_of_ne ht]
      exact ih

theorem Published.avatarTarget (h : Published m m') (t : Slot) :
    m'.avatarTarget t = m.avatarTarget t := by
  obtain ⟨hmanaged, hinc, hsid⟩ := h.identity t
  unfold FakeClientManager.avatarTarget FakeClientManager.currentRequest
  rw [h.getAvatarRequest, hmanaged, hinc, hsid]

end Publishing

/-- What a round that is not skipped does. -/
structure Worked (addr : Nat) (slot : Slot) (s s' : FakeClientManager × AvatarOverrides) :
    Prop where
  moves : State.Moves [] slot (someSteamId (s.1.avatarTarget slot))
    (s.1.getAvatarRequest slot).data (s.2.view addr) (s'.2.view addr)
  sequence : (s'.2.states slot).sequence = (s.1.getAvatarRequest slot).sequence
  steamId : (s'.2.states slot).steamId = s.1.avatarTarget slot
  forget : ∀ t, t ≠ slot → (s'.2.states t).forget = (s.2.states t).forget
  last : s'.2.lastAvatarTable = s.2.lastAvatarTable
  slots : ∀ t, t ≠ slot → s'.1.slots t = s.1.slots t
  flag : (s'.1.slots slot).snapshot.avatarApplied = true →
    (s'.1.slots slot).snapshot.avatarSteamId = s.1.avatarTarget slot ∧
      s.1.avatarTarget slot ≠ 0 ∧ (s'.2.states slot).processed = true
  settled : (s'.2.states slot).processed = true → (s'.2.view addr).Settled slot
    (someSteamId (s.1.avatarTarget slot)) (s.1.getAvatarRequest slot).data
  sound : (s.2.tables addr).Sound → (s'.2.tables addr).Sound

/-- The slot's record is up to date, and its round does not come yet or is done. -/
def Waiting (now : Nat) (slot : Slot) (s : FakeClientManager × AvatarOverrides) : Prop :=
  (s.2.states slot).sequence = (s.1.getAvatarRequest slot).sequence ∧
    (s.2.states slot).steamId = s.1.avatarTarget slot ∧
    ((s.2.states slot).processed || now < (s.2.states slot).retryAt) = true

/-- **A slot's round** is skipped, or it works on the slot; then it is done on a sound table
when every call goes through. -/
theorem processSlot_cases (calls : Slot → TableCalls) (now addr : Nat)
    (s : FakeClientManager × AvatarOverrides) (slot : Slot) :
    (processSlot calls now addr s slot = s ∧ Waiting now slot s) ∨
    (Worked addr slot s (processSlot calls now addr s slot) ∧
      ((s.2.tables addr).Sound → calls slot = {} →
        ((processSlot calls now addr s slot).2.states slot).processed = true)) := by
  obtain ⟨m, a⟩ := s
  unfold processSlot
  dsimp only
  split
  · rename_i hwait
    have hsame := refresh_of_waiting hwait
    refine Or.inl ⟨?_, ?_, ?_, ?_⟩
    · rw [hsame, AvatarOverrides.setState, Function.update_eq_self]
    · exact (congrArg AvatarRuntimeState.sequence hsame).symm.trans (sequence_refresh ..)
    · exact (congrArg AvatarRuntimeState.steamId hsame).symm.trans (steamId_refresh ..)
    · rwa [hsame] at hwait
  · rename_i hdue
    have hproc : ((a.states slot).refresh (m.getAvatarRequest slot).sequence
        (m.avatarTarget slot)).processed = false := by
      by_contra h
      exact hdue (by simp [h])
    generalize hstate : (a.states slot).refresh (m.getAvatarRequest slot).sequence
      (m.avatarTarget slot) = state at hproc hdue
    have hseq : state.sequence = (m.getAvatarRequest slot).sequence := by
      rw [← hstate, sequence_refresh]
    have hsid : state.steamId = m.avatarTarget slot := by
      rw [← hstate, steamId_refresh]
    have hview : (a.setState slot state).view addr = a.view addr :=
      view_setState (by rw [← hstate, appliedSteamId_refresh])
    have hpub : Published m (m.publishAvatarState slot false 0) := .step slot false 0 .refl
    have hreq := hpub.getAvatarRequest slot
    have hc := cleared_clearStale (a.setState slot state) (calls slot) addr slot
      (someSteamId (m.avatarTarget slot)) (m.getAvatarRequest slot).data
    generalize (a.setState slot state).clearStale (calls slot) addr slot = r at hc
    have hforget : ∀ t, t ≠ slot → (r.2.states t).forget = (a.states t).forget := fun t ht => by
      rw [hc.forget, states_setState_of_ne ht]
    have hown : (r.2.states slot).forget = state.forget := by
      rw [hc.forget, states_setState_self]
    have hflag : ((m.publishAvatarState slot false 0).slots slot).snapshot.avatarApplied = false := by
      rw [snapshot_publishAvatarState_self]
    have hmoves := hc.moves
    rw [hview] at hmoves
    refine Or.inr ?_
    split
    · rename_i hfail
      -- the stale entry could not be taken back: only the record changes
      simp only [Bool.not_eq_true'] at hfail
      have hstates : r.2.states slot = state := by
        rw [hc.failed hfail, states_setState_self]
      have hproc' : ((r.2.setState slot (state.retry now)).states slot).processed = false := by
        rw [states_setState_self]
        exact hproc
      refine ⟨⟨?_, ?_, ?_, fun t ht => ?_, hc.last,
        fun t ht => slots_publishAvatarState_of_ne ht _ _, fun h => ?_, fun h => ?_, hc.sound⟩,
        fun hs hcalls => ?_⟩
      · rwa [view_setState (by rw [hstates]; rfl)]
      · rw [states_setState_self]
        exact hseq
      · rw [states_setState_self]
        exact hsid
      · rw [states_setState_of_ne ht, hforget t ht]
      · rw [hflag] at h
        cases h
      · rw [hproc'] at h
        cases h
      · rw [hc.succeeds hs (by rw [hcalls])] at hfail
        cases hfail
    · rename_i hok
      simp only [Bool.not_eq_true', Bool.not_eq_false] at hok
      have hownsid : (r.2.states slot).steamId = m.avatarTarget slot :=
        (congrArg AvatarRuntimeState.steamId hown).trans hsid
      have ha := applied_applyRequest (m.publishAvatarState slot false 0) r.2 (calls slot) now addr
        slot ((congrArg AvatarRuntimeState.processed hown).trans hproc) (hc.applied hok)
      generalize r.2.applyRequest (m.publishAvatarState slot false 0) (calls slot) now addr slot =
        r' at ha
      have hmoves' := ha.moves
      have hsettled := ha.settled
      have hpublished := ha.published
      rw [hownsid] at hmoves' hsettled hpublished
      rw [hreq] at hmoves' hsettled
      refine ⟨⟨hmoves.trans hmoves', ?_, ?_, fun t ht => ?_, ha.last.trans hc.last,
        fun t ht => ?_, fun h => ?_, hsettled, fun hs => ha.sound (hc.sound hs)⟩,
        fun hs hcalls => ha.done (hc.sound hs) hcalls⟩
      · exact ha.sequence.trans ((congrArg AvatarRuntimeState.sequence hown).trans hseq)
      · exact ha.steamId.trans hownsid
      · rw [ha.forget t ht, hforget t ht]
      · rcases hpublished with h | ⟨h, -⟩
        · rw [h, slots_publishAvatarState_of_ne ht]
        · rw [h, slots_publishAvatarState_of_ne ht, slots_publishAvatarState_of_ne ht]
      · rcases hpublished with hm | ⟨hm, h0, hp⟩
        · rw [hm, hflag] at h
          cases h
        · refine ⟨?_, h0, hp⟩
          rw [hm, snapshot_publishAvatarState_self]
          rfl

/-! ## The other slots -/

/-- No two slots want an avatar under the same SteamID. -/
def DistinctTargets (m : FakeClientManager) : Prop :=
  ∀ s t, s ≠ t → m.avatarTarget s ≠ 0 → m.avatarTarget s ≠ m.avatarTarget t

theorem avatarTarget_of_ne {m : FakeClientManager} {s : Slot} (h : m.avatarTarget s ≠ 0) :
    m.isManaged s = true ∧ m.avatarTarget s = m.getSyntheticSid s := by
  unfold FakeClientManager.avatarTarget at h ⊢
  split at h
  · rename_i hcur
    rw [if_pos hcur]
    unfold FakeClientManager.currentRequest at hcur
    simp only [Bool.and_eq_true] at hcur
    exact ⟨hcur.1, rfl⟩
  · exact absurd rfl h

theorem distinctTargets_of_good {w : World} (hg : w.registry.Good) :
    DistinctTargets w.manager := by
  intro s t hst hs heq
  obtain ⟨hms, hsid⟩ := avatarTarget_of_ne hs
  obtain ⟨hmt, htid⟩ := avatarTarget_of_ne (heq ▸ hs)
  exact hg.unique s t hst hms hmt (hsid.symm.trans (heq.trans htid))

theorem Published.distinct {m m' : FakeClientManager} (h : Published m m')
    (hd : DistinctTargets m) : DistinctTargets m' := by
  intro s t hst
  rw [h.avatarTarget, h.avatarTarget]
  exact hd s t hst

/-- The slot has what it wants. -/
def Provided (addr : Nat) (slot : Slot) (s : FakeClientManager × AvatarOverrides) : Prop :=
  (s.2.view addr).Settled slot (someSteamId (s.1.avatarTarget slot))
    (s.1.getAvatarRequest slot).data

/-- A round takes nothing from another slot. -/
theorem Provided.worked {s s' : FakeClientManager × AvatarOverrides} {t : Slot}
    (h : Provided addr t s) (hw : Worked addr slot s s') (hpub : Published s.1 s'.1)
    (hex : (s.2.view addr).Exclusive) (hd : DistinctTargets s.1) (ht : t ≠ slot) :
    Provided addr t s' := by
  unfold Provided
  rw [hpub.avatarTarget, hpub.getAvatarRequest]
  refine State.Settled.moves h hex hw.moves ht fun k hk hk' => ?_
  obtain ⟨rfl, h0⟩ := someSteamId_eq_some hk
  exact hd slot t (Ne.symm ht) h0 (someSteamId_eq_some hk').1.symm

/-! ## Sweeps -/

/-- The slot's record is up to date. -/
def UpToDate (slot : Slot) (s : FakeClientManager × AvatarOverrides) : Prop :=
  (s.2.states slot).sequence = (s.1.getAvatarRequest slot).sequence ∧
    (s.2.states slot).steamId = s.1.avatarTarget slot

/-- After a slot's round its record is up to date. -/
theorem upToDate_processSlot (calls : Slot → TableCalls) (now addr : Nat)
    (s : FakeClientManager × AvatarOverrides) (slot : Slot) :
    UpToDate slot (processSlot calls now addr s slot) := by
  have hpub := published_processSlot calls now addr s slot
  unfold UpToDate
  rw [hpub.avatarTarget, hpub.getAvatarRequest]
  rcases processSlot_cases calls now addr s slot with ⟨hs, hwait⟩ | ⟨hw, -⟩
  · rw [hs]
    exact ⟨hwait.1, hwait.2.1⟩
  · exact ⟨hw.sequence, hw.steamId⟩

/-- A slot's round keeps the records of the other slots, but for what they clean up. -/
theorem forget_processSlot_of_ne (calls : Slot → TableCalls) (now addr : Nat)
    (s : FakeClientManager × AvatarOverrides) {slot t : Slot} (h : t ≠ slot) :
    ((processSlot calls now addr s slot).2.states t).forget = (s.2.states t).forget := by
  rcases processSlot_cases calls now addr s slot with ⟨hs, -⟩ | ⟨hw, -⟩
  · rw [hs]
  · exact hw.forget t h

theorem last_processSlot (calls : Slot → TableCalls) (now addr : Nat)
    (s : FakeClientManager × AvatarOverrides) (slot : Slot) :
    (processSlot calls now addr s slot).2.lastAvatarTable = s.2.lastAvatarTable := by
  rcases processSlot_cases calls now addr s slot with ⟨hs, -⟩ | ⟨hw, -⟩
  · rw [hs]
  · exact hw.last

theorem UpToDate.processSlot {s : FakeClientManager × AvatarOverrides} {t : Slot}
    (h : UpToDate t s) (calls : Slot → TableCalls) (now addr : Nat) (slot : Slot) :
    UpToDate t (processSlot calls now addr s slot) := by
  rcases eq_or_ne t slot with rfl | ht
  · exact upToDate_processSlot calls now addr s t
  · have hforget := forget_processSlot_of_ne calls now addr s ht
    have hpub := published_processSlot calls now addr s slot
    unfold UpToDate
    rw [hpub.avatarTarget, hpub.getAvatarRequest]
    exact ⟨(congrArg AvatarRuntimeState.sequence hforget).trans h.1,
      (congrArg AvatarRuntimeState.steamId hforget).trans h.2⟩

/-! ## Passes -/

/-- The rounds of a pass over the table at an address. -/
def World.sweep (w : World) (env : PassEnv) (addr : Nat) :
    FakeClientManager × AvatarOverrides :=
  allSlots.foldl (processSlot env.calls env.now addr) (w.avatar.noteTable w.manager addr)

/-- What a pass starts with and every round keeps holds after the rounds. -/
theorem sweep_invariant {P : FakeClientManager × AvatarOverrides → Prop} (w : World)
    (env : PassEnv) (addr : Nat) (h0 : P (w.avatar.noteTable w.manager addr))
    (hround : ∀ s slot, P s → P (processSlot env.calls env.now addr s slot)) :
    P (w.sweep env addr) :=
  Sweep.foldl_invariant h0 fun s slot _ => hround s slot

/-- After the rounds every record is up to date. -/
theorem upToDate_sweep (w : World) (env : PassEnv) (addr : Nat) (slot : Slot) :
    UpToDate slot (w.sweep env addr) :=
  Sweep.foldl_established (P := UpToDate slot) (mem_allSlots slot)
    (fun s => upToDate_processSlot env.calls env.now addr s slot)
    (fun _ t h => h.processSlot env.calls env.now addr t) _

/-- A pass finds a table and sweeps it, or does nothing. -/
theorem processOverrides_cases (w : World) (env : PassEnv) :
    (∃ addr, w.avatar.networkStringTables = true ∧ env.found = some addr ∧
      w.processOverrides env =
        { w with manager := (w.sweep env addr).1, avatar := (w.sweep env addr).2 }) ∨
    ((w.avatar.networkStringTables = false ∨ env.found = none) ∧ w.processOverrides env = w) := by
  unfold World.processOverrides AvatarOverrides.processOverrides World.sweep
  cases htables : w.avatar.networkStringTables with
  | false => exact Or.inr ⟨Or.inl rfl, rfl⟩
  | true =>
    cases hfound : env.found with
    | none => exact Or.inr ⟨Or.inr rfl, rfl⟩
    | some addr => exact Or.inl ⟨addr, rfl, rfl, rfl⟩

/-- Before a table is swept for the first time nothing is published. -/
theorem avatarApplied_withdrawAll (m : FakeClientManager) (slot : Slot) :
    ((withdrawAll m).slots slot).snapshot.avatarApplied = false := by
  refine Sweep.foldl_established
    (P := fun m : FakeClientManager => (m.slots slot).snapshot.avatarApplied = false)
    (mem_allSlots slot) (fun m => ?_) (fun m t h => ?_) m
  · rw [snapshot_publishAvatarState_self]
  · rcases eq_or_ne slot t with rfl | ht
    · rw [snapshot_publishAvatarState_self]
    · rwa [slots_publishAvatarState_of_ne ht]

theorem last_noteTable (a : AvatarOverrides) (m : FakeClientManager) (addr : Nat) :
    (a.noteTable m addr).2.lastAvatarTable = some addr := by
  unfold noteTable
  split
  · assumption
  · rfl

end BotHider.Model
