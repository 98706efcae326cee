import Mathlib.Algebra.Order.BigOperators.Group.Finset
import BotHider.Lib.Window
import BotHider.Model.Ping

/-!
# BotHider — the ping display

`PingDisplay` is a sliding window over 64 ticks that is read every 32. `feed` is a display
from its reset on, with the ping it publishes into.

Main results:

* `ring_feed` — the window of a fed display.
* `feed_shows` — the throttle, the last written mean and the published ping after `n` samples,
  for any sequence of positive samples.
-/

namespace BotHider.Model

open Finset

/-! ## The display on its own -/

/-- The window of a display. -/
def PingDisplay.ring (d : PingDisplay) : Window.Ring kWindowTicks Int where
  samples := d.samples
  idx := d.idx
  sum := d.sum
  filled := d.filled

/-- A tick of a display with the ping it publishes into. -/
def PingDisplay.tick (d : PingDisplay) (ping sample : Int) : PingDisplay × Int :=
  let produced := (d.recordSample sample).maybeProduce
  (produced.2, if produced.1 ≥ 0 then produced.1 else ping)

/-- A display fed from its reset on. -/
def feed (baseline : Int) (s : ℕ → Int) : ℕ → PingDisplay × Int
  | 0 => ({}, baseline)
  | n + 1 => (feed baseline s n).1.tick (feed baseline s n).2 (s n)

/-- The mean, rounded down, of the latest samples up to tick `t`. -/
def windowMean (s : ℕ → Int) (t : ℕ) : Int :=
  (∑ i ∈ Ico (t - kWindowTicks) t, s i) / (min kWindowTicks t : ℕ)

/-- What should be shown after `n` ticks. -/
def shown (baseline : Int) (s : ℕ → Int) (n : ℕ) : Int :=
  if n < kWriteEveryTicks then baseline
  else windowMean s (kWriteEveryTicks * (n / kWriteEveryTicks))

variable {baseline : Int} {s : ℕ → Int} {n : ℕ}

theorem ring_recordSample (d : PingDisplay) (x : Int) :
    (d.recordSample x).ring = d.ring.push x := rfl

theorem ring_maybeProduce (d : PingDisplay) : d.maybeProduce.2.ring = d.ring := by
  unfold PingDisplay.maybeProduce
  dsimp only
  split
  · rfl
  · split
    · rfl
    · split <;> rfl

/-- The window of a fed display holds the samples it was fed. -/
theorem ring_feed : (feed baseline s n).1.ring = Window.fill s n := by
  induction n with
  | zero => rfl
  | succ n ih =>
    change ((feed baseline s n).1.recordSample (s n)).maybeProduce.2.ring = _
    rw [ring_maybeProduce, ring_recordSample, ih]
    rfl

theorem card_window (t : ℕ) : (Ico (t - kWindowTicks) t).card = min kWindowTicks t := by
  rw [Nat.card_Ico]
  omega

/-- A mean is not below its samples. -/
theorem le_windowMean {lo : Int} {t : ℕ} (ht : 0 < t) (hlo : ∀ i, lo ≤ s i) :
    lo ≤ windowMean s t := by
  have hpos : (0 : Int) < (min kWindowTicks t : ℕ) := by
    rw [Int.natCast_pos]
    exact lt_min (by decide) ht
  have hsum : (min kWindowTicks t : ℕ) * lo ≤ ∑ i ∈ Ico (t - kWindowTicks) t, s i := by
    rw [← card_window, ← nsmul_eq_mul]
    exact card_nsmul_le_sum _ _ _ fun i _ => hlo i
  unfold windowMean
  rw [Int.le_ediv_iff_mul_le hpos, Int.mul_comm]
  exact hsum

/-- A mean, rounded down, is not above its samples. -/
theorem windowMean_le {hi : Int} {t : ℕ} (ht : 0 < t) (hhi : ∀ i, s i ≤ hi) :
    windowMean s t ≤ hi := by
  have hpos : (0 : Int) < (min kWindowTicks t : ℕ) := by
    rw [Int.natCast_pos]
    exact lt_min (by decide) ht
  have hsum : ∑ i ∈ Ico (t - kWindowTicks) t, s i ≤ (min kWindowTicks t : ℕ) * hi := by
    rw [← card_window, ← nsmul_eq_mul]
    exact sum_le_card_nsmul _ _ _ fun i _ => hhi i
  unfold windowMean
  refine Int.lt_add_one_iff.mp (Int.ediv_lt_of_lt_mul hpos ?_)
  rw [Int.add_mul, Int.one_mul, Int.mul_comm hi]
  omega

theorem filled_recordSample_ne_zero (d : PingDisplay) (x : Int) :
    (d.recordSample x).filled ≠ 0 := by
  have hwin : kWindowTicks = 64 := rfl
  change (if d.filled < kWindowTicks then d.filled + 1 else d.filled) ≠ 0
  split <;> omega

/-! ## Throttle and filter -/

/-- A tick between two writes only counts. -/
theorem tick_of_lt {d : PingDisplay} (h : d.ticksSinceWrite + 1 < kWriteEveryTicks)
    (ping x : Int) :
    (d.tick ping x).1.ticksSinceWrite = d.ticksSinceWrite + 1 ∧
      (d.tick ping x).1.lastWritten = d.lastWritten ∧ (d.tick ping x).2 = ping := by
  have heq : (d.recordSample x).maybeProduce =
      (-1, { d.recordSample x with ticksSinceWrite := d.ticksSinceWrite + 1 }) := if_pos h
  unfold PingDisplay.tick
  rw [heq]
  exact ⟨rfl, rfl, rfl⟩

theorem maybeProduce_of_ge {d : PingDisplay} (h : ¬ d.ticksSinceWrite + 1 < kWriteEveryTicks)
    (hfilled : d.filled ≠ 0) : d.maybeProduce =
      if d.currentAverage = d.lastWritten then (-1, { d with ticksSinceWrite := 0 })
      else (d.currentAverage, { d with ticksSinceWrite := 0, lastWritten := d.currentAverage }) := by
  unfold PingDisplay.maybeProduce
  dsimp only
  rw [if_neg h]
  exact if_neg hfilled

/-- A tick that completes a round publishes the mean, unless it is the one last written. -/
theorem tick_of_ge {d : PingDisplay} (h : ¬ d.ticksSinceWrite + 1 < kWriteEveryTicks)
    {x : Int} (ping : Int) (hfilled : (d.recordSample x).filled ≠ 0)
    (hpos : 0 ≤ (d.recordSample x).currentAverage) :
    (d.tick ping x).1.ticksSinceWrite = 0 ∧
      (d.tick ping x).1.lastWritten = (d.recordSample x).currentAverage ∧
      (d.tick ping x).2 = if (d.recordSample x).currentAverage = d.lastWritten then ping
        else (d.recordSample x).currentAverage := by
  have hlast : (d.recordSample x).lastWritten = d.lastWritten := rfl
  have heq := maybeProduce_of_ge (d := d.recordSample x) h hfilled
  rw [hlast] at heq
  unfold PingDisplay.tick
  rw [heq]
  by_cases hsame : (d.recordSample x).currentAverage = d.lastWritten
  · rw [if_pos hsame, if_pos hsame]
    exact ⟨rfl, hsame.symm, rfl⟩
  · rw [if_neg hsame, if_neg hsame]
    exact ⟨rfl, rfl, if_pos hpos⟩

/-- What the display reads off its window. -/
theorem currentAverage_feed (hs : ∀ i, 0 ≤ s i) :
    ((feed baseline s n).1.recordSample (s n)).currentAverage = windowMean s (n + 1) := by
  have hring : ((feed baseline s n).1.recordSample (s n)).ring = Window.fill s (n + 1) := by
    rw [ring_recordSample, ring_feed]
    rfl
  have hfilled : ((feed baseline s n).1.recordSample (s n)).filled = min kWindowTicks (n + 1) :=
    (congrArg Window.Ring.filled hring).trans Window.filled_fill
  have hsum : ((feed baseline s n).1.recordSample (s n)).sum =
      ∑ i ∈ Ico (n + 1 - kWindowTicks) (n + 1), s i :=
    (congrArg Window.Ring.sum hring).trans Window.sum_fill
  have hwin : kWindowTicks = 64 := rfl
  unfold PingDisplay.currentAverage windowMean
  rw [hfilled, hsum, if_neg (by omega), Int.tdiv_eq_ediv_of_nonneg (sum_nonneg fun i _ => hs i)]

/-- **Throttled mean.** After `n` positive samples the throttle is at `n % 32`, and what was
last written and is published is the mean at the last completed round; before the first one
nothing was written. -/
theorem feed_shows (hs : ∀ i, 1 ≤ s i) :
    (feed baseline s n).1.ticksSinceWrite = n % kWriteEveryTicks ∧
      (feed baseline s n).1.lastWritten = (if n < kWriteEveryTicks then 0
        else windowMean s (kWriteEveryTicks * (n / kWriteEveryTicks))) ∧
      (feed baseline s n).2 = shown baseline s n := by
  have h32 : kWriteEveryTicks = 32 := rfl
  have hwin : kWindowTicks = 64 := rfl
  induction n with
  | zero => exact ⟨rfl, rfl, rfl⟩
  | succ n ih =>
    obtain ⟨hticks, hlast, hping⟩ := ih
    change ((feed baseline s n).1.tick (feed baseline s n).2 (s n)).1.ticksSinceWrite = _ ∧
      ((feed baseline s n).1.tick (feed baseline s n).2 (s n)).1.lastWritten = _ ∧
      ((feed baseline s n).1.tick (feed baseline s n).2 (s n)).2 = _
    by_cases hround : (feed baseline s n).1.ticksSinceWrite + 1 < kWriteEveryTicks
    · obtain ⟨h1, h2, h3⟩ := tick_of_lt hround (feed baseline s n).2 (s n)
      rw [hticks] at hround
      simp only [h32] at hround
      have hdiv : (n + 1) / 32 = n / 32 := by omega
      have hmod : (n + 1) % 32 = n % 32 + 1 := by omega
      have hlt : n + 1 < 32 ↔ n < 32 := by omega
      rw [h1, h2, h3, hticks, hlast, hping]
      unfold shown
      simp only [h32, hdiv, hmod, hlt, and_self]
    · -- the round is complete at `n + 1`, so the mean is the one at `n + 1`
      have havg : ((feed baseline s n).1.recordSample (s n)).currentAverage = windowMean s (n + 1) :=
        currentAverage_feed fun i => le_trans (by decide) (hs i)
      have hone : 1 ≤ windowMean s (n + 1) := le_windowMean (Nat.succ_pos n) hs
      obtain ⟨h1, h2, h3⟩ := tick_of_ge hround (feed baseline s n).2
        (filled_recordSample_ne_zero _ _) (havg ▸ le_trans (by decide) hone)
      rw [hticks] at hround
      simp only [h32] at hround
      have hmod : (n + 1) % 32 = 0 := by omega
      have hround : 32 * ((n + 1) / 32) = n + 1 := by omega
      have hlt : ¬ n + 1 < 32 := by omega
      rw [h1, h2, h3, havg, hlast, hping]
      unfold shown
      simp only [h32, hmod, hround, if_neg hlt, true_and]
      -- an equal mean is not written again; the first one differs from the initial `0`
      by_cases hfirst : n < 32
      · rw [if_pos hfirst, if_pos hfirst, if_neg (by omega)]
      · rw [if_neg hfirst, if_neg hfirst]
        split
        · rename_i hsame
          exact hsame.symm
        · rfl

end BotHider.Model
