import BotHider.Lib.Undo
import BotHider.Model.Sweeps
import Mathlib.Tactic.IntervalCases

/-!
# BotHider — the marks of the disguise

Four marks tell a bot from a human: the fake-player byte, two connection flags and
the controller's `FL_FAKECLIENT` (`Mark`). A snapshot of `ScopedBotIdentityRestore`
notes which of them its capture raised, and its restore takes these off again
(`BotIdentitySnapshot.Undoes`). A snapshot whose notes are all of human marks
(`Humane`) never raises one when it is restored. Neither touches anything but marks
(`Engine.SameButMarks`).
-/

namespace BotHider.Model

/-- What tells a bot from a human. -/
inductive Mark
  | byte
  | player
  | fake
  | controller
  deriving DecidableEq

/-- The mark of a client and its controller is a human's. -/
def Mark.Human (c : Client) (k : Entity) : Mark → Prop
  | .byte => c.fakePlayer = 0
  | .player => c.connectionFlags.getLsbD 0 = true
  | .fake => c.connectionFlags.getLsbD 3 = false
  | .controller => k.fakeClient = false

/-- The fake-player byte is one of its two values. -/
def Client.ByteOk (c : Client) : Prop := c.fakePlayer = 0 ∨ c.fakePlayer = 1

theorem human_iff (c : Client) (k : Entity) :
    (∀ m, Mark.Human c k m) ↔ c.LooksHuman ∧ k.fakeClient = false :=
  ⟨fun h => ⟨⟨h .byte, h .player, h .fake⟩, h .controller⟩,
    fun ⟨⟨h1, h2, h3⟩, h4⟩ m => by cases m <;> assumption⟩

namespace BotIdentitySnapshot

variable {snapshot : BotIdentitySnapshot} {c c' : Client} {k k' : Entity}

/-- Restoring the snapshot makes the mark a human's. -/
def Undoes (snapshot : BotIdentitySnapshot) (c : Client) (k : Entity) : Mark → Prop
  | .byte => snapshot.Bound c ∧ snapshot.fakePlayer = 0
  | .player => snapshot.Bound c ∧ snapshot.connectionFlagsMask.getLsbD 0 = true
  | .fake => snapshot.Bound c ∧ snapshot.connectionFlagsMask.getLsbD 3 = true
  | .controller => snapshot.Bound c ∧ snapshot.BoundController k ∧
      snapshot.controllerFlagsMask.getLsbD 8 = true

/-- What the snapshot would put back are a human's marks. -/
structure Humane (snapshot : BotIdentitySnapshot) : Prop where
  byte : snapshot.fakePlayer = 0 ∨ snapshot.fakePlayer = 1
  player : snapshot.connectionFlagsMask.getLsbD 0 = true →
    snapshot.connectionFlags.getLsbD 0 = true
  fake : snapshot.connectionFlagsMask.getLsbD 3 = true →
    snapshot.connectionFlags.getLsbD 3 = false
  controller : snapshot.controllerFlagsMask.getLsbD 8 = true →
    snapshot.controllerFlags.getLsbD 8 = false

theorem humane_default : Humane {} :=
  ⟨Or.inl rfl, by simp, by simp, by simp⟩

/-- What a snapshot undoes depends on who the client and its controller are only. -/
theorem undoes_congr (haddr : c'.addr = c.addr) (hid : c'.userId = c.userId)
    (hk : k'.addr = k.addr) (hhandle : k'.handle = k.handle)
    (hlive : k'.LiveController ↔ k.LiveController) :
    snapshot.Undoes c' k' = snapshot.Undoes c k := by
  have hb : snapshot.Bound c' ↔ snapshot.Bound c := by
    unfold Bound
    rw [haddr, hid]
  have hbk : snapshot.BoundController k' ↔ snapshot.BoundController k := by
    unfold BoundController
    rw [hk, hhandle, hlive]
  funext m
  cases m <;> simp only [Undoes, hb, hbk]

/-! ## Capture -/

theorem humane_captured (h : c.ByteOk) (k : Entity) : Humane ((ofClient c).withController k) where
  byte := h
  player hm := by
    have := (Mask.getLsbD_changed).mp hm
    simpa [ofClient, withController, Client.setFakePlayer] using this
  fake hm := by
    have := (Mask.getLsbD_changed).mp hm
    simpa [ofClient, withController, Client.setFakePlayer] using this
  controller hm := by
    have := (Mask.getLsbD_changed).mp hm
    rw [show (k.withFakeClient true).flags.getLsbD 8 = true from
      Entity.fakeClient_withFakeClient true k] at this
    simpa [ofClient, withController] using this

/-- The snapshot of a client notes every mark its capture raised. -/
theorem undoes_captured (hlive : k.LiveController) {m : Mark} (h : Mark.Human c k m) :
    ((ofClient c).withController k).Undoes c.setFakePlayer (k.withFakeClient true) m := by
  have hb : ((ofClient c).withController k).Bound c.setFakePlayer := ⟨rfl, rfl⟩
  cases m with
  | byte => exact ⟨hb, h⟩
  | player =>
    refine ⟨hb, (Mask.getLsbD_changed).mpr ?_⟩
    rw [show c.connectionFlags.getLsbD 0 = true from h]
    simp [Client.setFakePlayer]
  | fake =>
    refine ⟨hb, (Mask.getLsbD_changed).mpr ?_⟩
    rw [show c.connectionFlags.getLsbD 3 = false from h]
    simp [Client.setFakePlayer]
  | controller =>
    refine ⟨hb, ⟨rfl, hlive, rfl⟩, (Mask.getLsbD_changed).mpr ?_⟩
    rw [show k.flags.getLsbD 8 = false from h,
      show (k.withFakeClient true).flags.getLsbD 8 = true from
        Entity.fakeClient_withFakeClient true k]
    decide

/-! ## Restore -/

/-- What `Restore` makes of a client. -/
def restoredClient (snapshot : BotIdentitySnapshot) (c : Client) : Client :=
  if snapshot.Bound c then snapshot.mergeClient c else c

/-- What `Restore` makes of its controller. -/
def restoredController (snapshot : BotIdentitySnapshot) (c : Client) (k : Entity) : Entity :=
  if snapshot.Bound c ∧ snapshot.BoundController k then snapshot.mergeController k else k

theorem identity_restoredClient (snapshot : BotIdentitySnapshot) (c : Client) :
    (snapshot.restoredClient c).identity = c.identity := by
  unfold restoredClient
  split <;> rfl

theorem identity_restoredController (snapshot : BotIdentitySnapshot) (c : Client) (k : Entity) :
    (snapshot.restoredController c k).identity = k.identity := by
  unfold restoredController
  split <;> rfl

theorem byteOk_restoredClient (hh : snapshot.Humane) (h : c.ByteOk) :
    (snapshot.restoredClient c).ByteOk := by
  unfold restoredClient
  split
  · unfold mergeClient Client.ByteOk
    dsimp only
    split
    · exact hh.byte
    · exact h
  · exact h

/-- **Restore.** A humane snapshot takes off what it noted and raises nothing. -/
theorem human_restored (hh : snapshot.Humane) {m : Mark}
    (h : Mark.Human c k m ∨ snapshot.Undoes c k m) :
    Mark.Human (snapshot.restoredClient c) (snapshot.restoredController c k) m := by
  by_cases hb : snapshot.Bound c
  · have hc : snapshot.restoredClient c = snapshot.mergeClient c := if_pos hb
    -- a noted mark gets the value the snapshot saved; any other was human already
    cases m with
    | byte =>
      unfold Mark.Human
      rw [hc, mergeClient]
      dsimp only
      rcases hh.byte with h0 | h1
      · rw [h0, if_pos (by decide)]
      · rw [h1, if_neg (by decide)]
        rcases h with h | ⟨-, h⟩
        · exact h
        · rw [h1] at h
          cases h
    | player =>
      unfold Mark.Human
      rw [hc, mergeClient]
      dsimp only
      rw [Mask.getLsbD_merge _ _ _ (by omega)]
      split
      · rename_i hm
        exact hh.player hm
      · rename_i hm
        exact h.resolve_right fun hu => hm hu.2
    | fake =>
      unfold Mark.Human
      rw [hc, mergeClient]
      dsimp only
      rw [Mask.getLsbD_merge _ _ _ (by omega)]
      split
      · rename_i hm
        exact hh.fake hm
      · rename_i hm
        exact h.resolve_right fun hu => hm hu.2
    | controller =>
      change (snapshot.restoredController c k).fakeClient = false
      by_cases hbk : snapshot.BoundController k
      · rw [restoredController, if_pos ⟨hb, hbk⟩, Entity.fakeClient, mergeController,
          Mask.getLsbD_merge _ _ _ (by omega)]
        split
        · rename_i hm
          exact hh.controller hm
        · rename_i hm
          exact h.resolve_right fun hu => hm hu.2.2
      · rw [restoredController, if_neg fun hbb => hbk hbb.2]
        exact h.resolve_right fun hu => hbk hu.2.1
  · -- not the client the snapshot was taken of: nothing is written, nothing undone
    have hc : snapshot.restoredClient c = c := if_neg hb
    have hk : snapshot.restoredController c k = k := if_neg fun hbb => hb hbb.1
    rw [hc, hk]
    refine h.resolve_right fun hu => hb ?_
    cases m with
    | byte => exact hu.1
    | player => exact hu.1
    | fake => exact hu.1
    | controller => exact hu.1

end BotIdentitySnapshot

/-! ## All but the marks -/

/-- The client with its marks blanked. -/
def Client.unmarked (c : Client) : Client :=
  { c with connectionFlags := c.connectionFlags &&& ~~~0x09#8, fakePlayer := 0 }

/-- The entity with `FL_FAKECLIENT` blanked. -/
def Entity.unmarked (k : Entity) : Entity :=
  { k with flags := k.flags &&& ~~~kEntityFlagFakeClient }

/-- Everything but the marks is as it was: who the clients and entities are, and every other
bit of their flags. -/
structure Engine.SameButMarks (e e' : Engine) : Prop where
  agree : Engine.Agree Client.unmarked e e'
  entities : ∀ i, (e'.entities i).map Entity.unmarked = (e.entities i).map Entity.unmarked
  players : e'.players = e.players

/-- The snapshot would put back marks only. -/
structure BotIdentitySnapshot.MarksOnly (snapshot : BotIdentitySnapshot) : Prop where
  flags : snapshot.connectionFlagsMask &&& ~~~0x09#8 = 0
  controllerFlags : snapshot.controllerFlagsMask &&& ~~~kEntityFlagFakeClient = 0

section SameButMarks

open Engine

variable {m : FakeClientManager} {e e' e'' : Engine}

theorem Engine.SameButMarks.refl (e : Engine) : e.SameButMarks e :=
  ⟨.refl _ e, fun _ => rfl, rfl⟩

theorem Engine.SameButMarks.trans (h : e.SameButMarks e') (h' : e'.SameButMarks e'') :
    e.SameButMarks e'' :=
  ⟨h.agree.trans h'.agree, fun i => (h'.entities i).trans (h.entities i),
    h'.players.trans h.players⟩

/-- What the frame keeps of a client: who it is, and every bit but `0` and `3`. -/
theorem unmarked_eq_iff {c c' : Client} : c'.unmarked = c.unmarked ↔
    c'.identity = c.identity ∧ ∀ i, i < 8 → i ≠ 0 → i ≠ 3 →
      c'.connectionFlags.getLsbD i = c.connectionFlags.getLsbD i := by
  have hbit : ∀ i, i < 8 → (~~~0x09#8).getLsbD i = decide (i ≠ 0 ∧ i ≠ 3) := by decide
  constructor
  · intro h
    refine ⟨(congrArg Client.identity h : c'.unmarked.identity = c.unmarked.identity),
      fun i hi h0 h3 => ?_⟩
    have hflags : (c'.connectionFlags &&& ~~~0x09#8).getLsbD i =
        (c.connectionFlags &&& ~~~0x09#8).getLsbD i :=
      congrArg (fun c : Client => c.connectionFlags.getLsbD i) h
    rw [BitVec.getLsbD_and, BitVec.getLsbD_and, hbit i hi, decide_eq_true ⟨h0, h3⟩,
      Bool.and_true, Bool.and_true] at hflags
    exact hflags
  · rintro ⟨hid, hbits⟩
    have hflags : c'.unmarked.connectionFlags = c.unmarked.connectionFlags := by
      refine BitVec.eq_of_getLsbD_eq fun i hi => ?_
      unfold Client.unmarked
      rw [BitVec.getLsbD_and, BitVec.getLsbD_and, hbit i hi]
      by_cases hmark : i ≠ 0 ∧ i ≠ 3
      · rw [hbits i hi hmark.1 hmark.2]
      · simp [hmark]
    have hset : ∀ c : Client, c.unmarked =
        { c.identity with connectionFlags := c.unmarked.connectionFlags } := fun _ => rfl
    rw [hset c', hset c, hid, hflags]

theorem unmarked_setFakePlayer (c : Client) : c.setFakePlayer.unmarked = c.unmarked := by
  refine unmarked_eq_iff.mpr ⟨rfl, fun i hi h0 h3 => ?_⟩
  unfold Client.setFakePlayer
  interval_cases i <;> simp at h0 h3 ⊢

theorem unmarked_withFakeClient (b : Bool) (k : Entity) :
    (k.withFakeClient b).unmarked = k.unmarked := by
  have hflags : (k.withFakeClient b).flags &&& ~~~kEntityFlagFakeClient =
      k.flags &&& ~~~kEntityFlagFakeClient := by
    refine BitVec.eq_of_getLsbD_eq fun i hi => ?_
    unfold Entity.withFakeClient
    cases b
    · simp [hi]
    · simp [hi]
      grind
  unfold Entity.unmarked
  rw [hflags]
  rfl

theorem BotIdentitySnapshot.MarksOnly.client {snapshot : BotIdentitySnapshot}
    (h : snapshot.MarksOnly) (c : Client) : (snapshot.mergeClient c).unmarked = c.unmarked := by
  unfold Client.unmarked BotIdentitySnapshot.mergeClient
  dsimp only
  rw [Mask.merge_and_not h.flags]

theorem BotIdentitySnapshot.MarksOnly.controller {snapshot : BotIdentitySnapshot}
    (h : snapshot.MarksOnly) (k : Entity) :
    (snapshot.mergeController k).unmarked = k.unmarked := by
  unfold Entity.unmarked BotIdentitySnapshot.mergeController
  dsimp only
  rw [Mask.merge_and_not h.controllerFlags]

theorem marksOnly_default : BotIdentitySnapshot.MarksOnly {} := ⟨by decide, by decide⟩

theorem marksOnly_ofClient (c : Client) : (BotIdentitySnapshot.ofClient c).MarksOnly :=
  ⟨Mask.changed_and_not (congrArg Client.connectionFlags (unmarked_setFakePlayer c)),
    marksOnly_default.controllerFlags⟩

theorem BotIdentitySnapshot.MarksOnly.withController {snapshot : BotIdentitySnapshot}
    (h : snapshot.MarksOnly) (k : Entity) : (snapshot.withController k).MarksOnly :=
  ⟨h.flags, Mask.changed_and_not (congrArg Entity.flags (unmarked_withFakeClient true k))⟩

theorem sameButMarks_modifyClient (e : Engine) (slot : Nat) {u : Client → Client}
    (hu : ∀ c, (u c).unmarked = c.unmarked) : e.SameButMarks (e.modifyClient slot u) :=
  ⟨agree_modifyClient e slot hu, fun _ => rfl, rfl⟩

theorem sameButMarks_modifyEntity (e : Engine) (i : Int) {u : Entity → Entity}
    (hu : ∀ k, (u k).unmarked = k.unmarked) : e.SameButMarks (e.modifyEntity i u) :=
  ⟨agree_modifyEntity _ e i fun k => (congrArg Entity.identity (hu k) : _),
    map_entities_modifyEntity e i hu, rfl⟩

/-- **Opening.** Capturing changes marks only, and notes only these. -/
theorem sameButMarks_capture (m : FakeClientManager) (e : Engine) :
    e.SameButMarks (capture m e).1 ∧ ∀ t, ((capture m e).2 t).MarksOnly := by
  refine Sweep.foldl_invariant (P := fun s : Engine × ScopedBotIdentityRestore =>
    e.SameButMarks s.1 ∧ ∀ t, (s.2 t).MarksOnly) ⟨.refl e, fun _ => marksOnly_default⟩
    fun s slot _ ⟨hframe, hnotes⟩ => ?_
  have hupdate : ∀ snapshot : BotIdentitySnapshot, snapshot.MarksOnly → ∀ t,
      (Function.update s.2 slot snapshot t).MarksOnly := by
    intro snapshot hsnapshot t
    rcases eq_or_ne t slot with rfl | ht
    · rw [Function.update_self]
      exact hsnapshot
    · rw [Function.update_of_ne ht]
      exact hnotes t
  unfold captureSlot
  split
  · exact ⟨hframe, hnotes⟩
  · split
    · exact ⟨hframe, hnotes⟩
    · rename_i c _
      have hset := hframe.trans (sameButMarks_modifyClient s.1 slot unmarked_setFakePlayer)
      dsimp only
      split
      · exact ⟨hset, hupdate _ (marksOnly_ofClient c)⟩
      · rename_i k _
        split
        · exact ⟨hset, hupdate _ (marksOnly_ofClient c)⟩
        · exact ⟨hset.trans (sameButMarks_modifyEntity _ _ (unmarked_withFakeClient true)),
            hupdate _ ((marksOnly_ofClient c).withController k)⟩

/-- **Closing.** Restoring such snapshots changes marks only. -/
theorem sameButMarks_restore (m : FakeClientManager) {snapshots : ScopedBotIdentityRestore}
    (h : ∀ t, (snapshots t).MarksOnly) (e : Engine) : e.SameButMarks (restore m snapshots e) := by
  refine Sweep.foldl_rel .refl (fun _ _ _ => .trans) (fun e slot => ?_) allSlots e
  have hclient := sameButMarks_modifyClient e slot (h slot).client
  unfold restoreSlot
  dsimp only
  split
  · exact .refl e
  · split
    · exact .refl e
    · split
      · exact .refl e
      · split
        · exact hclient
        · split
          · exact hclient
          · exact hclient.trans (sameButMarks_modifyEntity _ _ (h slot).controller)

end SameButMarks

end BotHider.Model
