import BotHider.Lib.Run
import BotHider.Model.ClanTag
import Mathlib.Logic.Function.Basic

/-!
# BotHider — the clan presenter gives back what it found

An override of a controller's clan fields is on from the first `Apply` that read them until a
`Restore` that finds the same controller and user ID gets through. `ClanRun.origin` is the
account of it beside the presenter: for each controller and user ID with an override on, the
pair it had just before. Of the presenter it asks only whether a `Restore` of what is kept
failed (`ClanRun.fails`), never for the kept pair. What the presenter keeps as its base is the
account's pair (`ClanRun.Inv`), so restoring leaves it where it was.
-/

namespace BotHider.Model

/-- A controller and the user it belongs to. -/
abbrev ClanKey := UInt32 × Int

/-- The controller and user of a valid player. -/
def ClanPlayer.key (player : ClanPlayer) : Option ClanKey :=
  if player.isValid then player.userId.map fun userId => (player.entityHandle, userId) else none

/-- The controller and user that the entries are for. -/
def ClanTagPresenter.key (presenter : ClanTagPresenter) : ClanKey :=
  (presenter.controllerHandle, presenter.userId)

/-- The base that is saved for a controller and user. -/
def ClanTagPresenter.base (presenter : ClanTagPresenter) (k : ClanKey) : Option ClanValue :=
  if presenter.key = k then presenter.state.bind (·.base) else none

theorem ClanTagPresenter.base_of_state_none {presenter : ClanTagPresenter}
    (h : presenter.state = none) (k : ClanKey) : presenter.base k = none := by
  unfold base
  rw [h]
  split
  · rfl
  · rfl

theorem matchesPlayer_iff {presenter : ClanTagPresenter} {player : ClanPlayer} :
    presenter.matchesPlayer player = true ↔ player.key = some presenter.key := by
  unfold ClanTagPresenter.matchesPlayer ClanPlayer.key ClanTagPresenter.key
  cases player.isValid with
  | false => simp
  | true =>
    cases player.userId with
    | none => simp
    | some userId => simp

/-! ## One override -/

/-- The written player is the same one, with each field as it was or as the value is kept. -/
structure ClanPlayer.Written (value : ClanValue) (call : ClanCall) (p p' : ClanPlayer) :
    Prop where
  key : p'.key = p.key
  tag : p'.clan = p.clan ∨ p'.clan = some (call.keptTag value.tag)
  group : p'.clanId32bit = p.clanId32bit ∨ p'.clanId32bit = call.keptGroup value.groupId

theorem written_self (value : ClanValue) (call : ClanCall) (p : ClanPlayer) :
    p.Written value call p := ⟨rfl, Or.inl rfl, Or.inl rfl⟩

theorem written_writeClan (p : ClanPlayer) (value : ClanValue) (call : ClanCall) :
    p.Written value call (writeClan p value call).1 := by
  unfold writeClan
  split
  · exact written_self value call p
  · dsimp only
    split
    · exact ⟨rfl, Or.inr rfl, Or.inl rfl⟩
    · exact ⟨rfl, Or.inr rfl, Or.inr rfl⟩

namespace ClanPresentationState

variable (state : ClanPresentationState) (p : ClanPlayer) (call : ClanCall)

/-- Presenting a pair keeps the base, and leaves that pair when nothing throws. -/
theorem present_spec (target : ClanValue) :
    (state.present (readClan p) target p call).1.base = state.base ∧
      p.Written target call (state.present (readClan p) target p call).2.1 ∧
      ((state.present (readClan p) target p call).2.2 = true →
        readClan (state.present (readClan p) target p call).2.1 = target) := by
  unfold present
  split
  · dsimp only
    have hwritten := written_writeClan p target call
    split
    · -- a write or its notification threw
      exact ⟨rfl, hwritten, fun h => (nomatch h)⟩
    · split
      · exact ⟨rfl, hwritten, fun h => (nomatch h)⟩
      · split
        · -- the engine did not keep the values
          exact ⟨rfl, hwritten, fun h => (nomatch h)⟩
        · rename_i hretained
          exact ⟨rfl, hwritten, fun _ => not_not.mp hretained⟩
  · rename_i hsame
    rw [not_or, not_not] at hsame
    exact ⟨rfl, written_self target call p, fun _ => hsame.1⟩

/-- A presentation whose accesses work and whose values are kept does not throw. -/
theorem present_ok (target : ClanValue) :
    (state.present (readClan p) target p {}).2.2 = true := by
  unfold present writeClan
  split
  · simp [readClan]
  · rfl

/-- Restoring without a base does nothing. -/
theorem apply_none_of_base_none (h : state.base = none) :
    state.apply none p call = (state, p, true) := by
  unfold apply
  rw [h]

/-- Restoring leaves the base on the controller when nothing throws, and keeps it else. -/
theorem apply_none_of_base {base : ClanValue} (h : state.base = some base) :
    p.Written base call (state.apply none p call).2.1 ∧
      ((state.apply none p call).2.2 = true →
        readClan (state.apply none p call).2.1 = base) ∧
      ((state.apply none p call).2.2 = false → (state.apply none p call).1.base = some base) := by
  unfold apply
  rw [h]
  dsimp only
  split
  · exact ⟨written_self base call p, fun h => (nomatch h), fun _ => h⟩
  · obtain ⟨hbase, hwritten, hok⟩ := present_spec state p call base
    split
    · rename_i hdone
      exact ⟨hwritten, fun _ => hok hdone, fun hfailed => by rw [hdone] at hfailed; cases hfailed⟩
    · rename_i hdone
      exact ⟨hwritten, hok, fun _ => hbase.trans h⟩

/-- A failed restoring keeps what is saved. -/
theorem apply_none_of_failed (h : (state.apply none p call).2.2 = false) :
    (state.apply none p call).1.base = state.base := by
  cases hbase : state.base with
  | none =>
    rw [apply_none_of_base_none state p call hbase] at h
    cases h
  | some base => exact (apply_none_of_base state p call hbase).2.2 h

theorem key_apply_none : (state.apply none p call).2.1.key = p.key := by
  cases hbase : state.base with
  | none => rw [apply_none_of_base_none state p call hbase]
  | some base => exact (apply_none_of_base state p call hbase).1.key

/-- A restoring whose accesses work and whose values are kept gets through. -/
theorem apply_none_ok : (state.apply none p {}).2.2 = true := by
  cases hbase : state.base with
  | none => rw [apply_none_of_base_none state p {} hbase]
  | some base =>
    unfold apply
    rw [hbase]
    dsimp only
    rw [if_neg (by decide), if_pos (present_ok state p base)]
    exact present_ok state p base

/-- Overriding saves the pair the controller has, unless one is saved already or the first read
throws. -/
theorem apply_some (value : ClanValue) :
    p.Written value call (state.apply (some value) p call).2.1 ∧
      (state.apply (some value) p call).1.base =
        if call.fault = some 0 then state.base
        else some (state.base.getD (readClan p)) := by
  unfold apply
  dsimp only
  split
  · exact ⟨written_self value call p, rfl⟩
  · obtain ⟨hbase, hwritten, -⟩ :=
      present_spec { state with base := some (state.base.getD (readClan p)) } p call value
    exact ⟨hwritten, hbase⟩

end ClanPresentationState

/-! ## Runs -/

/-- What happens around one slot's entries. The managed client calls `Apply` only with a valid
player of the slot. -/
inductive ClanEvent
  | player (player : Option ClanPlayer)
  | apply (clan : ClanValue) (call : ClanCall)
  | restore (call : ClanCall)

/-- The presenter and the slot's player; the pair of each controller and user that has an
override on, and those that were the slot's and are no more. -/
structure ClanRun where
  presenter : ClanTagPresenter
  player : Option ClanPlayer
  origin : ClanKey → Option ClanValue
  gone : List ClanKey

/-- A pair that overrides nothing. -/
def ClanValue.Clears (clan : ClanValue) : Prop := clan.groupId = 0 ∨ clan.tag = []

instance (clan : ClanValue) : Decidable clan.Clears := inferInstanceAs (Decidable (_ ∨ _))

namespace ClanRun

variable (s : ClanRun)

/-- The slot's current controller and user. -/
def key : Option ClanKey := s.player.bind ClanPlayer.key

/-- A `Restore` finds the controller and user that the entries are for. -/
def Finds : Prop := s.presenter.state.isSome ∧ s.key = some s.presenter.key

/-- A `Restore` catches what its accesses throw. -/
def fails (call : ClanCall) : Bool :=
  match s.presenter.state, s.player with
  | some state, some p => s.presenter.matchesPlayer p && !(state.apply none p call).2.2
  | _, _ => false

/-- The account after a `Restore`: the override is off unless the call failed. -/
def settle (call : ClanCall) : ClanKey → Option ClanValue :=
  match s.key with
  | none => s.origin
  | some k => if s.fails call then s.origin else Function.update s.origin k none

/-- The account after an `Apply` with a pair: the override begins once the fields are read. -/
def begin (p : ClanPlayer) (call : ClanCall) : ClanKey → Option ClanValue :=
  match p.key with
  | none => s.origin
  | some k =>
    if call.fault = some 0 ∨ (s.origin k).isSome then s.origin
    else Function.update s.origin k (some (readClan p))

/-- Those that were the slot's and are no more, with `next` the slot's controller and user. -/
def leave (next : Option ClanKey) : List ClanKey :=
  match s.key with
  | none => s.gone
  | some k => if next = some k then s.gone else k :: s.gone

def step : ClanEvent → ClanRun
  | .player p => { s with player := p, gone := s.leave (p.bind ClanPlayer.key) }
  | .apply clan call =>
    match s.player with
    | none => s
    | some p =>
      if !p.isValid then s
      else
        let applied := s.presenter.apply p clan call
        { s with
          presenter := applied.1
          player := applied.2
          origin := if clan.Clears then s.settle call else s.begin p call }
  | .restore call =>
    let restored := s.presenter.restore s.player call
    { s with presenter := restored.1, player := restored.2, origin := s.settle call }

/-- What is promised of a run: a controller and user that became invalid or were replaced never
return. -/
def NeverReturns (s : ClanRun) : ClanEvent → Prop
  | .player p => ∀ k, p.bind ClanPlayer.key = some k → k ∉ s.gone
  | _ => True

/-- Nothing was overridden yet. -/
def start (player : Option ClanPlayer) : ClanRun where
  presenter := {}
  player := player
  origin := fun _ => none
  gone := []

/-! ## One call -/

variable {s : ClanRun}

theorem finds_iff : s.Finds ↔ ∃ state p, s.presenter.state = some state ∧ s.player = some p ∧
    s.presenter.matchesPlayer p = true := by
  unfold Finds key
  rw [Option.isSome_iff_exists]
  constructor
  · rintro ⟨⟨state, hstate⟩, hkey⟩
    obtain ⟨p, hp, hpkey⟩ := Option.bind_eq_some_iff.mp hkey
    exact ⟨state, p, hstate, hp, matchesPlayer_iff.mpr hpkey⟩
  · rintro ⟨state, p, hstate, hp, hmatches⟩
    exact ⟨⟨state, hstate⟩, by rw [hp]; exact matchesPlayer_iff.mp hmatches⟩

/-- A `Restore` that finds nothing drops the state. -/
theorem restore_of_not_finds (h : ¬ s.Finds) (call : ClanCall) :
    s.presenter.restore s.player call = ({ s.presenter with state := none }, s.player) := by
  unfold ClanTagPresenter.restore
  cases hstate : s.presenter.state with
  | none =>
    have hsame : s.presenter = { s.presenter with state := none } := by rw [← hstate]
    exact congrArg (·, s.player) hsame
  | some state =>
    dsimp only
    cases hp : s.player with
    | none => rfl
    | some p =>
      have hnot : ¬ s.presenter.matchesPlayer p = true := fun hmatches =>
        h (finds_iff.mpr ⟨state, p, hstate, hp, hmatches⟩)
      dsimp only
      rw [if_neg hnot]

/-- A `Restore` that finds its controller and user restores it, and keeps the state when that
fails. -/
theorem restore_of_finds {state : ClanPresentationState} {p : ClanPlayer}
    (hstate : s.presenter.state = some state) (hp : s.player = some p)
    (hmatches : s.presenter.matchesPlayer p = true) (call : ClanCall) :
    s.presenter.restore s.player call =
      ({ s.presenter with
          state := if (state.apply none p call).2.2 then none
            else some (state.apply none p call).1 },
        some (state.apply none p call).2.1) := by
  unfold ClanTagPresenter.restore
  rw [hstate, hp]
  dsimp only
  rw [if_pos hmatches]
  split
  · rfl
  · rfl

theorem fails_of_not_finds (h : ¬ s.Finds) (call : ClanCall) : s.fails call = false := by
  unfold fails
  split
  · rename_i state p hstate hp
    have hnot : s.presenter.matchesPlayer p = false := by
      rw [← Bool.not_eq_true]
      exact fun hmatches => h (finds_iff.mpr ⟨state, p, hstate, hp, hmatches⟩)
    rw [hnot, Bool.false_and]
  · rfl

theorem fails_of_finds {state : ClanPresentationState} {p : ClanPlayer}
    (hstate : s.presenter.state = some state) (hp : s.player = some p)
    (hmatches : s.presenter.matchesPlayer p = true) (call : ClanCall) :
    s.fails call = !(state.apply none p call).2.2 := by
  unfold fails
  rw [hstate, hp]
  dsimp only
  rw [hmatches, Bool.true_and]

/-- The entries that an `Apply` with a pair goes on with. -/
def entriesFor (presenter : ClanTagPresenter) (k : ClanKey) : ClanTagPresenter :=
  if presenter.state.isSome ∧ presenter.key ≠ k then { presenter with state := none }
  else presenter

theorem apply_of_not_clears {presenter : ClanTagPresenter} {p : ClanPlayer} {userId : Int}
    {clan : ClanValue} (hvalid : p.isValid = true) (huser : p.userId = some userId)
    (hclan : ¬ clan.Clears) (call : ClanCall) :
    presenter.apply p clan call =
      (entriesFor presenter (p.entityHandle, userId)).override p userId clan call := by
  have hkey : p.key = some (p.entityHandle, userId) := by
    rw [ClanPlayer.key, if_pos hvalid, huser]
    rfl
  have hmismatch : (presenter.controllerHandle ≠ p.entityHandle ∨ presenter.userId ≠ userId) ↔
      presenter.key ≠ (p.entityHandle, userId) := by
    show _ ↔ ¬ (presenter.controllerHandle, presenter.userId) = (p.entityHandle, userId)
    rw [Prod.mk.injEq, not_and_or]
  have hclear : ¬ (clan.groupId = 0 ∨ clan.tag = []) := hclan
  unfold ClanTagPresenter.apply entriesFor
  rw [huser]
  dsimp only
  rw [if_neg hclear]
  by_cases hother : presenter.state.isSome ∧ presenter.key ≠ (p.entityHandle, userId)
  · -- the entries are for another controller or user: they are dropped
    rw [if_pos hother, if_pos ⟨hother.1, hmismatch.mpr hother.2⟩]
    have hfinds : ¬ Finds ⟨presenter, some p, fun _ => none, []⟩ := fun hf =>
      hother.2 (Option.some.inj (hf.2.symm.trans hkey))
    rw [restore_of_not_finds (s := ⟨presenter, some p, fun _ => none, []⟩) hfinds]
  · rw [if_neg hother, if_neg fun h => hother ⟨h.1, hmismatch.mp h.2⟩]

theorem key_entriesFor {presenter : ClanTagPresenter} {k : ClanKey}
    (h : (entriesFor presenter k).state.isSome) : (entriesFor presenter k).key = k := by
  unfold entriesFor at h ⊢
  split
  · rename_i hother
    rw [if_pos hother] at h
    cases h
  · rename_i hsame
    rw [if_neg hsame] at h
    by_contra hne
    exact hsame ⟨h, hne⟩

theorem base_entriesFor (presenter : ClanTagPresenter) (k : ClanKey) :
    (entriesFor presenter k).base k = presenter.base k := by
  unfold entriesFor
  split
  · rename_i hother
    rw [ClanTagPresenter.base_of_state_none rfl]
    exact (if_neg hother.2).symm
  · rfl

/-- What is saved of entries for a controller and user, as a state to go on with. -/
theorem base_of_key {presenter : ClanTagPresenter} {k : ClanKey}
    (hkey : presenter.state.isSome → presenter.key = k) :
    presenter.base k = (presenter.state.getD {}).base := by
  unfold ClanTagPresenter.base
  cases hstate : presenter.state with
  | none =>
    split
    · rfl
    · rfl
  | some state =>
    rw [if_pos (hkey (by rw [hstate]; rfl))]
    rfl

theorem override_eq {presenter : ClanTagPresenter} {p : ClanPlayer} {userId : Int}
    (hkey : presenter.state.isSome → presenter.key = (p.entityHandle, userId)) (clan : ClanValue)
    (call : ClanCall) :
    presenter.override p userId clan call =
      ({ state := some ((presenter.state.getD {}).apply (some clan) p call).1
         userId
         controllerHandle := p.entityHandle },
        some ((presenter.state.getD {}).apply (some clan) p call).2.1) := by
  obtain ⟨state, userId', controllerHandle⟩ := presenter
  cases state with
  | none => rfl
  | some state =>
    obtain ⟨rfl, rfl⟩ := Prod.mk.inj (hkey rfl)
    rfl

/-- An override saves the pair that the player has, unless one is saved already or the first
read throws. Its entries are for the player. -/
theorem override_spec (presenter : ClanTagPresenter) (p : ClanPlayer) (userId : Int)
    (clan : ClanValue) (call : ClanCall) :
    ∃ p', ((entriesFor presenter (p.entityHandle, userId)).override p userId clan call).2 =
        some p' ∧ p.Written clan call p' ∧
      ∀ k, ((entriesFor presenter (p.entityHandle, userId)).override p userId clan call).1.base k =
        if (p.entityHandle, userId) = k then
          if call.fault = some 0 then presenter.base k
          else some ((presenter.base k).getD (readClan p))
        else none := by
  rw [override_eq key_entriesFor]
  have hsaved : presenter.base (p.entityHandle, userId) =
      ((entriesFor presenter (p.entityHandle, userId)).state.getD {}).base :=
    (base_entriesFor presenter _).symm.trans (base_of_key key_entriesFor)
  obtain ⟨hwritten, hbase⟩ := ClanPresentationState.apply_some
    ((entriesFor presenter (p.entityHandle, userId)).state.getD {}) p call clan
  refine ⟨_, rfl, hwritten, fun k => ?_⟩
  show (if (p.entityHandle, userId) = k then _ else _) = _
  by_cases hk : (p.entityHandle, userId) = k
  · subst hk
    rw [if_pos rfl, if_pos rfl, hsaved]
    exact hbase
  · rw [if_neg hk, if_neg hk]

/-- A `Restore` keeps the slot's controller and user, and what is saved when it fails. -/
theorem restore_spec (s : ClanRun) (call : ClanCall) :
    (s.step (.restore call)).key = s.key ∧
      ∀ k, (s.step (.restore call)).presenter.base k =
        if s.fails call then s.presenter.base k else none := by
  show (s.presenter.restore s.player call).2.bind _ = _ ∧
    ∀ k, (s.presenter.restore s.player call).1.base k = _
  by_cases hfinds : s.Finds
  · obtain ⟨state, p, hstate, hp, hmatches⟩ := finds_iff.mp hfinds
    rw [restore_of_finds hstate hp hmatches, fails_of_finds hstate hp hmatches]
    refine ⟨?_, fun k => ?_⟩
    · unfold key
      rw [hp]
      exact state.key_apply_none p call
    · cases hok : (state.apply none p call).2.2 with
      | true => exact ClanTagPresenter.base_of_state_none rfl k
      | false =>
        unfold ClanTagPresenter.base
        rw [hstate]
        show (if s.presenter.key = k then (state.apply none p call).1.base else none) = _
        rw [state.apply_none_of_failed p call hok]
        rfl
  · rw [restore_of_not_finds hfinds, fails_of_not_finds hfinds]
    exact ⟨rfl, fun k => ClanTagPresenter.base_of_state_none rfl k⟩

theorem settle_of_fails {call : ClanCall} (h : s.fails call = true) :
    s.settle call = s.origin := by
  unfold settle
  rw [h]
  split
  · rfl
  · rfl

theorem settle_of_not_fails {call : ClanCall} (h : s.fails call = false) (k : ClanKey) :
    s.settle call k = if s.key = some k then none else s.origin k := by
  unfold settle
  rw [h]
  cases s.key with
  | none => rfl
  | some k' => simp [Function.update_apply, eq_comm]

/-! ## The invariant -/

/-- An override that is on is the slot's or one of those that are no more; what is saved is the
account's pair; and the pair of the slot's own override is saved. -/
structure Inv (s : ClanRun) : Prop where
  known : ∀ k b, s.origin k = some b → s.key = some k ∨ k ∈ s.gone
  sound : ∀ k b, s.presenter.base k = some b → s.origin k = some b
  saved : ∀ k b, s.key = some k → s.origin k = some b → s.presenter.base k = some b

theorem inv_start (player : Option ClanPlayer) : (start player).Inv where
  known := fun _ _ h => nomatch h
  sound := fun k b h => by
    rw [ClanTagPresenter.base_of_state_none rfl k] at h
    cases h
  saved := fun _ _ _ h => nomatch h

/-- For the slot's controller and user the account and the entries agree. -/
theorem Inv.base_eq (hinv : s.Inv) {k : ClanKey} (hkey : s.key = some k) :
    s.presenter.base k = s.origin k := by
  cases horigin : s.origin k with
  | none =>
    refine Option.eq_none_iff_forall_ne_some.mpr fun b hb => ?_
    rw [hinv.sound k b hb] at horigin
    cases horigin
  | some b => exact hinv.saved k b hkey horigin

theorem mem_leave_of_gone {k : ClanKey} (h : k ∈ s.gone) (next : Option ClanKey) :
    k ∈ s.leave next := by
  unfold leave
  split
  · exact h
  · split
    · exact h
    · exact List.mem_cons_of_mem _ h

theorem mem_leave_of_key {k : ClanKey} (h : s.key = some k) {next : Option ClanKey}
    (hnext : next ≠ some k) : k ∈ s.leave next := by
  unfold leave
  rw [h]
  dsimp only
  rw [if_neg hnext]
  exact List.mem_cons_self

theorem Inv.player (hinv : s.Inv) {p : Option ClanPlayer} (hok : NeverReturns s (.player p)) :
    (s.step (.player p)).Inv where
  known := by
    intro k b horigin
    by_cases hsame : p.bind ClanPlayer.key = some k
    · exact Or.inl hsame
    · refine Or.inr ?_
      rcases hinv.known k b horigin with hkey | hgone
      · exact mem_leave_of_key hkey hsame
      · exact mem_leave_of_gone hgone _
  sound := hinv.sound
  saved := by
    intro k b hkey horigin
    -- an override that is on was the slot's before, or its owner is gone and does not return
    rcases hinv.known k b horigin with hold | hgone
    · exact hinv.saved k b hold horigin
    · exact absurd hgone (hok k hkey)

theorem Inv.restore (hinv : s.Inv) (call : ClanCall) : (s.step (.restore call)).Inv := by
  obtain ⟨hkey, hbase⟩ := restore_spec s call
  have horigin : (s.step (.restore call)).origin = s.settle call := rfl
  cases hfails : s.fails call with
  | true =>
    -- neither the account nor what is saved has changed
    rw [settle_of_fails hfails] at horigin
    simp only [hfails, if_true] at hbase
    refine ⟨fun k b h => ?_, fun k b h => ?_, fun k b hk h => ?_⟩
    · rw [hkey]
      exact hinv.known k b (horigin ▸ h)
    · rw [horigin]
      exact hinv.sound k b (hbase k ▸ h)
    · rw [hbase k]
      exact hinv.saved k b (hkey ▸ hk) (horigin ▸ h)
  | false =>
    -- nothing is saved any more, and the slot's override is off
    simp only [hfails, Bool.false_eq_true, if_false] at hbase
    refine ⟨fun k b h => ?_, fun k b h => ?_, fun k b hk h => ?_⟩
    · rw [horigin, settle_of_not_fails hfails] at h
      split at h
      · cases h
      · rw [hkey]
        exact hinv.known k b h
    · rw [hbase k] at h
      cases h
    · rw [horigin, settle_of_not_fails hfails, if_pos (hkey ▸ hk)] at h
      cases h

/-- The slot's controller and user are those of a valid player that has a user ID. -/
theorem key_eq_some {k : ClanKey} : s.key = some k ↔ ∃ p userId, s.player = some p ∧
    p.isValid = true ∧ p.userId = some userId ∧ (p.entityHandle, userId) = k := by
  unfold key ClanPlayer.key
  rw [Option.bind_eq_some_iff]
  constructor
  · rintro ⟨p, hp, hkey⟩
    split at hkey
    · rename_i hvalid
      obtain ⟨userId, huser, hk⟩ := Option.map_eq_some_iff.mp hkey
      exact ⟨p, userId, hp, hvalid, huser, hk⟩
    · cases hkey
  · rintro ⟨p, userId, hp, hvalid, huser, hk⟩
    exact ⟨p, hp, by rw [if_pos hvalid, huser]; exact congrArg some hk⟩

/-- Without a user ID an `Apply` returns at once. -/
theorem step_apply_of_no_key (h : s.key = none) (clan : ClanValue) (call : ClanCall) :
    s.step (.apply clan call) = s := by
  obtain ⟨presenter, player, origin, gone⟩ := s
  cases player with
  | none => rfl
  | some p =>
    cases hvalid : p.isValid with
    | false =>
      unfold step
      dsimp only
      rw [hvalid]
      rfl
    | true =>
      have hkey : p.key = none := h
      have huser : p.userId = none := by
        unfold ClanPlayer.key at hkey
        rw [if_pos hvalid] at hkey
        exact Option.map_eq_none_iff.mp hkey
      have hsettle : settle ⟨presenter, some p, origin, gone⟩ call = origin := by
        unfold settle
        rw [h]
      have hbegin : begin ⟨presenter, some p, origin, gone⟩ p call = origin := by
        unfold begin
        rw [hkey]
      have happly : presenter.apply p clan call = (presenter, some p) := by
        unfold ClanTagPresenter.apply
        rw [huser]
      unfold step
      dsimp only
      rw [hvalid, happly, hsettle, hbegin, ite_self]
      rfl

/-- With a user ID an `Apply` with a clearing pair is a `Restore`. -/
theorem step_apply_of_clears {k : ClanKey} (hkey : s.key = some k) {clan : ClanValue}
    (hclan : clan.Clears) (call : ClanCall) :
    s.step (.apply clan call) = s.step (.restore call) := by
  obtain ⟨p, userId, hp, hvalid, huser, -⟩ := key_eq_some.mp hkey
  have hclear : clan.groupId = 0 ∨ clan.tag = [] := hclan
  unfold step ClanTagPresenter.apply
  rw [hp]
  dsimp only
  rw [hvalid, huser]
  dsimp only
  rw [if_pos hclear, if_pos hclan]
  rfl

/-- With a user ID an `Apply` with another pair overrides the fields. -/
theorem step_apply_of_not_clears {p : ClanPlayer} {userId : Int} (hp : s.player = some p)
    (hvalid : p.isValid = true) (huser : p.userId = some userId) {clan : ClanValue}
    (hclan : ¬ clan.Clears) (call : ClanCall) :
    s.step (.apply clan call) =
      { s with
        presenter := ((entriesFor s.presenter (p.entityHandle, userId)).override p userId clan
          call).1
        player := ((entriesFor s.presenter (p.entityHandle, userId)).override p userId clan
          call).2
        origin := s.begin p call } := by
  unfold step
  rw [hp]
  dsimp only
  rw [hvalid, apply_of_not_clears hvalid huser hclan, if_neg hclan]
  rfl

theorem begin_of_key {p : ClanPlayer} {k : ClanKey} (hkey : p.key = some k) (call : ClanCall)
    (j : ClanKey) : s.begin p call j =
      if k = j then
        if call.fault = some 0 then s.origin k else some ((s.origin k).getD (readClan p))
      else s.origin j := by
  unfold begin
  rw [hkey]
  dsimp only
  by_cases hj : k = j
  · subst hj
    rw [if_pos rfl]
    cases horigin : s.origin k with
    | none =>
      by_cases hfault : call.fault = some 0
      · rw [if_pos (Or.inl hfault), if_pos hfault, horigin]
      · rw [if_neg (by simp [hfault]), if_neg hfault, Function.update_self]
        rfl
    | some b =>
      rw [if_pos (Or.inr (Option.isSome_some ..)), horigin]
      split
      · rfl
      · rfl
  · rw [if_neg hj]
    split
    · rfl
    · exact Function.update_of_ne (Ne.symm hj) ..

theorem Inv.override (hinv : s.Inv) {k : ClanKey} (hkey : s.key = some k) {clan : ClanValue}
    (hclan : ¬ clan.Clears) (call : ClanCall) : (s.step (.apply clan call)).Inv := by
  obtain ⟨p, userId, hp, hvalid, huser, hk⟩ := key_eq_some.mp hkey
  have hpkey : p.key = some k := by
    have h := hkey
    unfold key at h
    rw [hp] at h
    exact h
  rw [step_apply_of_not_clears hp hvalid huser hclan]
  obtain ⟨p', hp', hwritten, hbase⟩ := override_spec s.presenter p userId clan call
  rw [hk] at hp' hbase ⊢
  rw [hp']
  generalize ((entriesFor s.presenter k).override p userId clan call).1 = presenter at hbase ⊢
  have hsame : ClanPlayer.key p' = some k := hwritten.key.trans hpkey
  -- the account and the entries take the pair, or keep the one they have, alike
  have hagree := hinv.base_eq hkey
  refine ⟨fun j b h => ?_, fun j b h => ?_, fun j b hj h => ?_⟩
  · have h : s.begin p call j = some b := h
    rw [begin_of_key hpkey] at h
    split at h
    · rename_i hj
      exact Or.inl (hj ▸ hsame)
    · exact (hinv.known j b h).imp_left fun hold => hsame.trans (hkey.symm.trans hold)
  · have h : presenter.base j = some b := h
    show s.begin p call j = some b
    rw [begin_of_key hpkey]
    rw [hbase] at h
    split at h
    · rename_i hj
      rw [if_pos hj, ← hagree]
      rw [← hj] at h
      exact h
    · cases h
  · have hj : p'.key = some j := hj
    have h : s.begin p call j = some b := h
    rw [begin_of_key hpkey] at h
    show presenter.base j = some b
    obtain rfl : k = j := Option.some.inj (hsame.symm.trans hj)
    rw [if_pos rfl, ← hagree] at h
    rw [hbase, if_pos rfl]
    exact h

/-- Every event keeps the invariant. -/
theorem Inv.step {e : ClanEvent} (hinv : s.Inv) (hok : NeverReturns s e) : (s.step e).Inv := by
  cases e with
  | player p => exact hinv.player hok
  | restore call => exact hinv.restore call
  | apply clan call =>
    cases hkey : s.key with
    | none =>
      rw [step_apply_of_no_key hkey]
      exact hinv
    | some k =>
      by_cases hclan : clan.Clears
      · rw [step_apply_of_clears hkey hclan]
        exact hinv.restore call
      · exact hinv.override hkey hclan call

theorem inv_run {es : List ClanEvent} (h : s.Inv) (hrun : Runs.Admits step NeverReturns s es) :
    (Runs.exec step s es).Inv :=
  Runs.exec_invariant h (fun _ _ hinv hok => hinv.step hok) hrun

/-! ## What a call does -/

/-- The event is a `Restore`, or an `Apply` with a clearing pair. -/
inductive Restores : ClanEvent → ClanCall → Prop
  | restore (call : ClanCall) : Restores (.restore call) call
  | apply (clan : ClanValue) (call : ClanCall) (h : clan.Clears) : Restores (.apply clan call) call

theorem step_of_restores {e : ClanEvent} {call : ClanCall} (he : Restores e call) {k : ClanKey}
    (hkey : s.key = some k) : s.step e = s.step (.restore call) := by
  cases he with
  | restore => rfl
  | apply clan call hclan => exact step_apply_of_clears hkey hclan call

/-- A `Restore` that does not fail leaves the account's pair, and no state. -/
theorem Inv.restored (hinv : s.Inv) {p : ClanPlayer} {k : ClanKey} (hp : s.player = some p)
    (hkey : s.key = some k) {call : ClanCall} (hok : s.fails call = false) :
    (s.step (.restore call)).presenter.state = none ∧
      (s.step (.restore call)).player.map readClan = some ((s.origin k).getD (readClan p)) := by
  show (s.presenter.restore s.player call).1.state = none ∧
    (s.presenter.restore s.player call).2.map readClan = _
  have hagree := hinv.base_eq hkey
  by_cases hfinds : s.Finds
  · obtain ⟨state, q, hstate, hq, hmatches⟩ := finds_iff.mp hfinds
    obtain rfl : p = q := Option.some.inj (hp.symm.trans hq)
    have hdone : (state.apply none p call).2.2 = true := by
      rw [fails_of_finds hstate hp hmatches] at hok
      simpa using hok
    have hbase : s.presenter.base k = state.base := by
      rw [base_of_key fun _ => Option.some.inj (hfinds.2.symm.trans hkey), hstate]
      rfl
    rw [restore_of_finds hstate hp hmatches, hdone, ← hagree, hbase]
    refine ⟨rfl, congrArg some ?_⟩
    cases hb : state.base with
    | none => rw [state.apply_none_of_base_none p call hb]; rfl
    | some base => exact (state.apply_none_of_base p call hb).2.1 hdone
  · -- nothing is saved for the slot's controller and user, so no override of theirs is on
    have hnone : s.origin k = none := by
      rw [← hagree]
      unfold ClanTagPresenter.base
      split
      · rename_i hk
        cases hstate : s.presenter.state with
        | none => rfl
        | some state =>
          exact absurd ⟨by rw [hstate]; rfl, by rw [hkey, hk]⟩ hfinds
      · rfl
    rw [restore_of_not_finds hfinds, hnone, hp]
    exact ⟨rfl, rfl⟩

theorem finds_of_fails {call : ClanCall} (h : s.fails call = true) : s.Finds := by
  by_contra hnot
  rw [fails_of_not_finds hnot] at h
  cases h

/-- After a failed `Restore` the same pair is saved, and the next one finds it and can get
through. -/
theorem failed_restore {call : ClanCall} (h : s.fails call = true) :
    (∀ k, (s.step (.restore call)).presenter.base k = s.presenter.base k) ∧
      (s.step (.restore call)).Finds ∧ (s.step (.restore call)).fails {} = false := by
  have hfinds : s.Finds := finds_of_fails h
  obtain ⟨hkey, hbase⟩ := restore_spec s call
  obtain ⟨state, p, hstate, hp, hmatches⟩ := finds_iff.mp hfinds
  have hrestored := restore_of_finds hstate hp hmatches call
  have hfailed : (state.apply none p call).2.2 = false := by
    rw [fails_of_finds hstate hp hmatches] at h
    simpa using h
  rw [hfailed] at hrestored
  have hstate' : (s.step (.restore call)).presenter.state = some (state.apply none p call).1 :=
    congrArg (·.1.state) hrestored
  have hp' : (s.step (.restore call)).player = some (state.apply none p call).2.1 :=
    congrArg (·.2) hrestored
  have hsame : (s.step (.restore call)).presenter.key = s.presenter.key :=
    congrArg (·.1.key) hrestored
  have hfinds' : (s.step (.restore call)).Finds :=
    ⟨by rw [hstate']; rfl, by rw [hkey, hsame]; exact hfinds.2⟩
  refine ⟨fun k => by rw [hbase, if_pos h], hfinds', ?_⟩
  obtain ⟨state', p', hs, hq, hmatches'⟩ := finds_iff.mp hfinds'
  rw [fails_of_finds hs hq hmatches', state'.apply_none_ok p']
  rfl

/-- The pairs an event may write to the slot's player: the pair of the `Apply`, or the account's
for that controller and user. -/
inductive Presents (s : ClanRun) : ClanEvent → ClanCall → ClanValue → Prop
  | override (clan : ClanValue) (call : ClanCall) (h : ¬ clan.Clears) :
    Presents s (.apply clan call) call clan
  | restore {e : ClanEvent} {call : ClanCall} {k : ClanKey} {b : ClanValue}
    (he : Restores e call) (hkey : s.key = some k) (horigin : s.origin k = some b) :
    Presents s e call b

theorem Inv.presents_restore (hinv : s.Inv) {e : ClanEvent} {call : ClanCall}
    (he : Restores e call) {p : ClanPlayer} (hp : s.player = some p) :
    ∃ p', (s.step (.restore call)).player = some p' ∧
      (p' = p ∨ ∃ call value, s.Presents e call value ∧ p.Written value call p') := by
  by_cases hfinds : s.Finds
  · obtain ⟨state, q, hstate, hq, hmatches⟩ := finds_iff.mp hfinds
    obtain rfl : p = q := Option.some.inj (hp.symm.trans hq)
    refine ⟨_, congrArg (·.2) (restore_of_finds hstate hp hmatches call), ?_⟩
    cases hb : state.base with
    | none => exact Or.inl (by rw [state.apply_none_of_base_none p call hb])
    | some base =>
      have hbase : s.presenter.base s.presenter.key = some base := by
        rw [base_of_key fun _ => rfl, hstate]
        exact hb
      exact Or.inr ⟨call, base, .restore he hfinds.2 (hinv.sound _ _ hbase),
        (state.apply_none_of_base p call hb).1⟩
  · exact ⟨p, (congrArg (·.2) (restore_of_not_finds hfinds call)).trans hp, Or.inl rfl⟩

/-- An event leaves the player's clan fields alone or writes to them a pair it may write. -/
theorem Inv.presents (hinv : s.Inv) {e : ClanEvent} (he : ∀ q, e ≠ .player q) {p : ClanPlayer}
    (hp : s.player = some p) : ∃ p', (s.step e).player = some p' ∧
      (p' = p ∨ ∃ call value, s.Presents e call value ∧ p.Written value call p') := by
  have hrestore : ∀ e call, Restores e call → s.step e = s.step (.restore call) →
      ∃ p', (s.step e).player = some p' ∧
        (p' = p ∨ ∃ call value, s.Presents e call value ∧ p.Written value call p') := by
    intro e call hrestores hsame
    rw [hsame]
    exact hinv.presents_restore hrestores hp
  cases e with
  | player q => exact absurd rfl (he q)
  | restore call => exact hrestore _ call (.restore call) rfl
  | apply clan call =>
    cases hkey : s.key with
    | none =>
      rw [step_apply_of_no_key hkey]
      exact ⟨p, hp, Or.inl rfl⟩
    | some k =>
      by_cases hclan : clan.Clears
      · exact hrestore _ call (.apply clan call hclan) (step_apply_of_clears hkey hclan call)
      · obtain ⟨q, userId, hq, hvalid, huser, -⟩ := key_eq_some.mp hkey
        obtain rfl : p = q := Option.some.inj (hp.symm.trans hq)
        obtain ⟨p', hp', hwritten, -⟩ := override_spec s.presenter p userId clan call
        rw [step_apply_of_not_clears hp hvalid huser hclan]
        exact ⟨p', hp', Or.inr ⟨call, clan, .override clan call hclan, hwritten⟩⟩

/-! ## What is promised -/

/-- Nothing is lost and nothing misplaced, whatever comes next. -/
structure Faithful (s : ClanRun) : Prop where
  saved : ∀ k, s.key = some k → s.presenter.base k = s.origin k
  sound : ∀ k b, s.presenter.base k = some b → s.origin k = some b
  restored : ∀ e call p k, Restores e call → s.player = some p → s.key = some k →
    s.fails call = false →
    (s.step e).presenter.state = none ∧
      (s.step e).player.map readClan = some ((s.origin k).getD (readClan p))
  failed : ∀ e call, Restores e call → s.fails call = true →
    (∀ k, (s.step e).presenter.base k = s.presenter.base k) ∧ (s.step e).Finds ∧
      (s.step e).fails {} = false
  presents : ∀ e p, (∀ q, e ≠ .player q) → s.player = some p → ∃ p', (s.step e).player = some p' ∧
    (p' = p ∨ ∃ call value, s.Presents e call value ∧ p.Written value call p')

end ClanRun

/-- **The original clan.** In every run in which a controller and user that are gone never
return, what is saved for the slot's is the pair they had before the override, a `Restore` that
does not fail gives it back, one that fails keeps it, and no other is written to them. -/
theorem clan_never_lost (player : Option ClanPlayer) (es : List ClanEvent)
    (hrun : Runs.Admits ClanRun.step ClanRun.NeverReturns (ClanRun.start player) es) :
    (Runs.exec ClanRun.step (ClanRun.start player) es).Faithful := by
  have hinv := ClanRun.inv_run (ClanRun.inv_start player) hrun
  generalize Runs.exec ClanRun.step (ClanRun.start player) es = s at hinv ⊢
  refine ⟨fun k hkey => hinv.base_eq hkey, hinv.sound, fun e call p k he hp hkey hok => ?_,
    fun e call he hfails => ?_, fun e p he hp => hinv.presents he hp⟩
  · rw [ClanRun.step_of_restores he hkey]
    exact hinv.restored hp hkey hok
  · rw [ClanRun.step_of_restores he (ClanRun.finds_of_fails hfails).2]
    exact ClanRun.failed_restore hfails

/-- A bot's controller with a clan of its own. -/
def clanBot : ClanPlayer where
  isValid := true
  entityHandle := 5
  userId := some 2
  clan := some [65]
  clanId32bit := 7

/-- A write that gets to the tag only, a restoring that does no better, and a new bot in the
slot. -/
theorem clan_never_lost_replaced :
    (Runs.exec ClanRun.step (ClanRun.start (some clanBot))
      [.apply ⟨[66], 9⟩ { fault := some 2 }, .restore { fault := some 2 },
        .player (some { clanBot with userId := some 3 })]).Faithful :=
  clan_never_lost (some clanBot) _ ⟨trivial, trivial, ⟨fun _ _ => List.not_mem_nil, trivial⟩⟩

end BotHider.Model
