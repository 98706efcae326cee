import BotHider.Lib.Run
import BotHider.Model.Manager
import BotHider.Ping.Display

/-!
# BotHider — the ping a slot shows

The manager is driven by calls on any slot, in any order. A slot's `Meter` is what its ping
depends on; from an adoption to the next adoption or release only ticks touch it.

Main results:

* `meter_call` — what one call does to the meter of a slot it keeps.
* `meter_run` — after a run of such calls the display was fed by the jitter, tick by tick.
* `ping_is_throttled_mean` — the published ping is a throttled sliding mean.
-/

namespace BotHider.Model

open FakeClientManager Finset

/-! ## Calls -/

/-- A call that changes the slot manager between `Init` and `Shutdown`. -/
inductive ManagerCall
  | adoptSlot (slot : Slot) (a : Adoption) (now : UInt64)
  | releaseSlot (slot : Slot)
  | releaseAll
  | setSyntheticSid (slot : Slot) (sid : UInt64)
  | setSlotName (slot : Slot) (name : Option Bytes)
  | updateCrosshair (slot : Slot) (code : Bytes)
  | updateScoreboardFlair (slot : Slot) (flair : UInt32)
  | setAvatarRequest (slot : Slot) (data : Bytes)
  | publishAvatarState (slot : Slot) (applied : Bool) (steamId : UInt64)
  | onTick

/-- The manager after a call. -/
def FakeClientManager.call (m : FakeClientManager) : ManagerCall → FakeClientManager
  | .adoptSlot slot a now => m.adoptSlot slot a now
  | .releaseSlot slot => m.releaseSlot slot
  | .releaseAll => m.releaseAll
  | .setSyntheticSid slot sid => m.setSyntheticSid slot sid
  | .setSlotName slot name => m.setSlotName slot name
  | .updateCrosshair slot code => m.updateCrosshair slot code
  | .updateScoreboardFlair slot flair => m.updateScoreboardFlair slot flair
  | .setAvatarRequest slot data => m.setAvatarRequest slot data
  | .publishAvatarState slot applied steamId => m.publishAvatarState slot applied steamId
  | .onTick => m.onTick

namespace ManagerCall

/-- The call neither adopts nor releases the slot. -/
def Keeps (slot : Slot) : ManagerCall → Prop
  | adoptSlot t _ _ => t ≠ slot
  | releaseSlot t => t ≠ slot
  | releaseAll => False
  | _ => True

instance (slot : Slot) : DecidablePred (Keeps slot)
  | adoptSlot t _ _ | releaseSlot t => inferInstanceAs (Decidable (t ≠ slot))
  | releaseAll => isFalse id
  | setSyntheticSid .. | setSlotName .. | updateCrosshair .. | updateScoreboardFlair ..
  | setAvatarRequest .. | publishAvatarState .. | onTick => isTrue trivial

/-- The call is a tick. -/
def isTick : ManagerCall → Bool
  | onTick => true
  | _ => false

end ManagerCall

/-! ## Meters -/

/-- What the ping of a slot depends on. -/
structure Meter where
  managed : Bool
  ping : Int
  jitter : PingJitter
  display : PingDisplay

/-- The meter of a slot. -/
def ManagedSlot.meter (s : ManagedSlot) : Meter where
  managed := s.snapshot.managed
  ping := s.snapshot.ping
  jitter := s.jitter
  display := s.display

/-- A meter after a tick. -/
def Meter.tick (x : Meter) : Meter :=
  let sample := x.jitter.nextSample
  let shown := x.display.tick x.ping sample.1
  { x with jitter := sample.2, display := shown.1, ping := shown.2 }

/-! ## Samples -/

/-- The jitter after `n` samples. -/
def PingJitter.after (j : PingJitter) : ℕ → PingJitter
  | 0 => j
  | n + 1 => (j.after n).nextSample.2

/-- The samples a jitter gives, in order. -/
def PingJitter.sample (j : PingJitter) (n : ℕ) : Int := (j.after n).nextSample.1

/-- A jitter around a baseline in a range the loader admits. -/
structure PingJitter.Ready (j : PingJitter) : Prop where
  one_le : 1 ≤ j.minimum
  min_le : j.minimum ≤ j.baseline
  le_max : j.baseline ≤ j.maximum
  max_le : j.maximum ≤ 999

variable {j : PingJitter}

/-- The spread of a jitter: a tenth of its baseline, rounded up. -/
def PingJitter.spread (j : PingJitter) : Int := (j.baseline + 9) / 10

/-- A sample stays in the range and in the spread. -/
theorem PingJitter.Ready.nextSample (h : j.Ready) :
    j.minimum ≤ j.nextSample.1 ∧ j.nextSample.1 ≤ j.maximum ∧
      j.baseline - j.spread ≤ j.nextSample.1 ∧ j.nextSample.1 ≤ j.baseline + j.spread := by
  obtain ⟨hone, hmin, hmax, h999⟩ := h
  have hspan : (j.baseline + 9).tdiv 10 = j.spread := Int.tdiv_eq_ediv_of_nonneg (by omega)
  have hspread : 1 ≤ j.spread ∧ j.spread ≤ 100 := by
    unfold PingJitter.spread
    omega
  have hmod : (toUint64 (2 * j.spread + 1)).toNat = (2 * j.spread + 1).toNat :=
    toNat_toUint64 (by omega) (by omega)
  unfold PingJitter.nextSample
  dsimp only
  rw [hspan]
  generalize xorshift j.state * kXorshiftMultiplier = r
  have hdraw : (r % toUint64 (2 * j.spread + 1)).toNat < (2 * j.spread + 1).toNat := by
    rw [UInt64.toNat_mod, hmod]
    exact Nat.mod_lt _ (by omega)
  omega

theorem baseline_after (n : ℕ) : (j.after n).baseline = j.baseline ∧
    (j.after n).minimum = j.minimum ∧ (j.after n).maximum = j.maximum := by
  induction n with
  | zero => exact ⟨rfl, rfl, rfl⟩
  | succ n ih => exact ih

/-- Every sample of a ready jitter stays in the range and in the spread. -/
theorem PingJitter.Ready.sample (h : j.Ready) (n : ℕ) :
    j.minimum ≤ j.sample n ∧ j.sample n ≤ j.maximum ∧
      j.baseline - j.spread ≤ j.sample n ∧ j.sample n ≤ j.baseline + j.spread := by
  obtain ⟨hbase, hmin, hmax⟩ := baseline_after (j := j) n
  have hready : (j.after n).Ready :=
    ⟨hmin ▸ h.one_le, hmin ▸ hbase ▸ h.min_le, hmax ▸ hbase ▸ h.le_max, hmax ▸ h.max_le⟩
  have hsample := hready.nextSample
  unfold PingJitter.spread at *
  rwa [hbase, hmin, hmax] at hsample

/-! ## The meter under each call -/

variable {m : FakeClientManager} {slot : Slot}

theorem meter_setSlot {t : Slot} {s : ManagedSlot}
    (h : s.meter = (m.slots t).meter) :
    ((m.setSlot t s).slots slot).meter = (m.slots slot).meter := by
  rcases eq_or_ne slot t with rfl | ht
  · rw [setSlot_slots_self, h]
  · rw [setSlot_slots_of_ne m ht]

theorem meter_modifySnapshot {t : Slot} {f : SlotSnapshot → SlotSnapshot}
    (hmanaged : (f (m.slots t).snapshot).managed = (m.slots t).snapshot.managed)
    (hping : (f (m.slots t).snapshot).ping = (m.slots t).snapshot.ping) :
    ((m.modifySnapshot t f).slots slot).meter = (m.slots slot).meter := by
  refine meter_setSlot ?_
  unfold ManagedSlot.meter
  dsimp only
  rw [hmanaged, hping]

theorem meter_setSyntheticSid (t : Slot) (sid : UInt64) :
    ((m.setSyntheticSid t sid).slots slot).meter = (m.slots slot).meter :=
  meter_modifySnapshot rfl rfl

theorem meter_setSlotName (t : Slot) (name : Option Bytes) :
    ((m.setSlotName t name).slots slot).meter = (m.slots slot).meter :=
  meter_modifySnapshot rfl rfl

theorem meter_updateCrosshair (t : Slot) (code : Bytes) :
    ((m.updateCrosshair t code).slots slot).meter = (m.slots slot).meter :=
  meter_modifySnapshot rfl rfl

theorem meter_updateScoreboardFlair (t : Slot) (flair : UInt32) :
    ((m.updateScoreboardFlair t flair).slots slot).meter = (m.slots slot).meter :=
  meter_modifySnapshot rfl rfl

theorem meter_publishAvatarState (t : Slot) (applied : Bool) (sid : UInt64) :
    ((m.publishAvatarState t applied sid).slots slot).meter = (m.slots slot).meter :=
  meter_modifySnapshot rfl rfl

theorem meter_onTick : ((m.onTick).slots slot).meter =
    if (m.slots slot).snapshot.managed && m.fakePingEnabled then (m.slots slot).meter.tick
    else (m.slots slot).meter := by
  change (m.tickedSlot (m.slots slot)).meter = _
  unfold tickedSlot
  rw [← Bool.not_and]
  cases h : (m.slots slot).snapshot.managed && m.fakePingEnabled with
  | false => rfl
  | true =>
    unfold ManagedSlot.meter Meter.tick PingDisplay.tick
    simp only [Bool.not_true, Bool.false_eq_true, if_false, if_true]
    split <;> rfl

theorem fakePingEnabled_call (m : FakeClientManager) (c : ManagerCall) :
    (m.call c).fakePingEnabled = m.fakePingEnabled := by
  cases c <;> rfl

/-- **One call.** A tick moves the meter of a managed slot when fake ping is enabled; no other
call that keeps the slot touches it. -/
theorem meter_call {c : ManagerCall} (hkeeps : c.Keeps slot) :
    ((m.call c).slots slot).meter =
      if c.isTick && ((m.slots slot).snapshot.managed && m.fakePingEnabled) then
        (m.slots slot).meter.tick
      else (m.slots slot).meter := by
  cases c with
  | onTick => exact meter_onTick
  | adoptSlot t a now => exact congrArg ManagedSlot.meter (setSlot_slots_of_ne m (Ne.symm hkeeps) _)
  | releaseSlot t => exact congrArg ManagedSlot.meter (setSlot_slots_of_ne m (Ne.symm hkeeps) _)
  | releaseAll => exact hkeeps.elim
  | setAvatarRequest t data => exact (meter_publishAvatarState t false 0).trans (meter_setSlot rfl)
  | publishAvatarState t applied sid => exact meter_publishAvatarState t applied sid
  | setSyntheticSid t sid => exact meter_setSyntheticSid t sid
  | setSlotName t name => exact meter_setSlotName t name
  | updateCrosshair t code => exact meter_updateCrosshair t code
  | updateScoreboardFlair t flair => exact meter_updateScoreboardFlair t flair

/-! ## Runs -/

/-- The meter of a slot that was adopted with fake ping enabled, after `n` ticks. -/
def Meter.Fed (j : PingJitter) (n : ℕ) (x : Meter) : Prop :=
  x.managed = true ∧ x.jitter = j.after n ∧ (x.display, x.ping) = feed j.baseline j.sample n

theorem Meter.Fed.tick {j : PingJitter} {n : ℕ} {x : Meter} (h : x.Fed j n) :
    x.tick.Fed j (n + 1) := by
  obtain ⟨hmanaged, hjitter, hfeed⟩ := h
  have hdisplay : x.display = (feed j.baseline j.sample n).1 := congrArg Prod.fst hfeed
  have hping : x.ping = (feed j.baseline j.sample n).2 := congrArg Prod.snd hfeed
  refine ⟨hmanaged, ?_, ?_⟩
  · change x.jitter.nextSample.2 = _
    rw [hjitter]
    rfl
  · change x.display.tick x.ping x.jitter.nextSample.1 = _
    rw [hjitter, hdisplay, hping]
    rfl

theorem fed_adoptSlot (henabled : m.fakePingEnabled = true) (a : Adoption) (now : UInt64) :
    ((m.adoptSlot slot a now).slots slot).meter.Fed
      ((m.adoptSlot slot a now).slots slot).jitter 0 := by
  have hslot := setSlot_slots_self m slot
  unfold adoptSlot ManagedSlot.meter
  dsimp only
  rw [hslot, henabled]
  exact ⟨rfl, rfl, rfl⟩

/-- **Run lemma.** Calls that keep a slot feed its display one sample for each tick. -/
theorem meter_run {j : PingJitter} {n : ℕ} {calls : List ManagerCall}
    (hkeeps : ∀ c ∈ calls, c.Keeps slot) (henabled : m.fakePingEnabled = true)
    (h : (m.slots slot).meter.Fed j n) :
    ((Runs.exec call m calls).slots slot).meter.Fed j (n + calls.countP ManagerCall.isTick) := by
  induction calls generalizing m n with
  | nil => exact h
  | cons c calls ih =>
    obtain ⟨hc, hcalls⟩ := List.forall_mem_cons.mp hkeeps
    have hmeter := meter_call (m := m) hc
    rw [show (m.slots slot).snapshot.managed = true from h.1, henabled, Bool.and_true,
      Bool.and_true] at hmeter
    rw [Runs.exec_cons]
    cases htick : c.isTick with
    | true =>
      rw [htick, if_pos rfl] at hmeter
      rw [List.countP_cons_of_pos htick, show n + (calls.countP ManagerCall.isTick + 1) =
        n + 1 + calls.countP ManagerCall.isTick by omega]
      refine ih hcalls ((fakePingEnabled_call m c).trans henabled) ?_
      rw [hmeter]
      exact h.tick
    | false =>
      rw [htick, if_neg Bool.false_ne_true] at hmeter
      rw [List.countP_cons_of_neg (by rw [htick]; exact Bool.false_ne_true)]
      refine ih hcalls ((fakePingEnabled_call m c).trans henabled) ?_
      rw [hmeter]
      exact h

/-- **Ping.** After an adoption with fake ping enabled and any calls that keep the slot, `n` of
them ticks, a slot whose samples are positive shows its baseline before the 32nd tick and then
the mean of the last 64 samples, rounded down, as of the last multiple of 32; and its running
sum is the sum of its ring. -/
theorem ping_is_throttled_mean (m : FakeClientManager) (slot : Slot) (a : Adoption)
    (now : UInt64) (calls : List ManagerCall) (henabled : m.fakePingEnabled = true)
    (hkeeps : ∀ c ∈ calls, c.Keeps slot) :
    let start := m.adoptSlot slot a now
    let final := Runs.exec FakeClientManager.call start calls
    let jitter := (start.slots slot).jitter
    let n := calls.countP ManagerCall.isTick
    ((∀ i, 1 ≤ jitter.sample i) →
      (final.slots slot).snapshot.ping = shown jitter.baseline jitter.sample n) ∧
    (final.slots slot).display.sum = ∑ i, (final.slots slot).display.samples i := by
  have hstart : (m.adoptSlot slot a now).fakePingEnabled = true := henabled
  obtain ⟨-, -, hfeed⟩ := meter_run hkeeps hstart (fed_adoptSlot henabled a now)
  rw [Nat.zero_add] at hfeed
  refine ⟨fun hs => ?_, ?_⟩
  · exact (congrArg Prod.snd hfeed).trans (feed_shows hs).2.2
  · have hring : ((Runs.exec FakeClientManager.call (m.adoptSlot slot a now) calls).slots
        slot).display.ring = Window.fill _ _ :=
      (congrArg (fun x => x.1.ring) hfeed).trans ring_feed
    have hexact : ((Runs.exec FakeClientManager.call (m.adoptSlot slot a now) calls).slots
        slot).display.ring.Exact := hring ▸ Window.exact_fill
    exact hexact

/-- A manager before its first tick. -/
def freshManager : FakeClientManager where
  slots := fun _ => freshSlot 0

/-- An identity without texts. -/
def plainAdoption : Adoption where
  name := none
  steamId64 := 1
  crosshairCode := []
  scoreboardFlair := 0
  clanTag := []
  clanGroupId := 0

/-- A rename and forty ticks. -/
def fortyTicks : List ManagerCall := .setSlotName 0 none :: List.replicate 40 .onTick

theorem ping_is_throttled_mean_forty :
    ((Runs.exec FakeClientManager.call (freshManager.adoptSlot 0 plainAdoption 3)
      fortyTicks).slots 0).snapshot.ping =
      windowMean ((freshManager.adoptSlot 0 plainAdoption 3).slots 0).jitter.sample 32 := by
  refine (ping_is_throttled_mean freshManager 0 plainAdoption 3 fortyTicks rfl ?_).1 fun i => ?_
  · decide
  · have hready : ((freshManager.adoptSlot 0 plainAdoption 3).slots 0).jitter.Ready :=
      ⟨by decide, by decide +kernel, by decide +kernel, by decide⟩
    exact hready.one_le.trans (hready.sample i).1

end BotHider.Model
