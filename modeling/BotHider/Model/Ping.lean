import BotHider.Model.Bridge
import Mathlib.Data.List.FinRange

/-!
# BotHider — simulated ping

`ping_display.cpp` and the xorshift64* generator it shares with the slot
manager and the identity pool. An `int` is an `Int` here; the samples stay far
inside 32 bits for every configuration the loader accepts.
-/

namespace BotHider.Model

/-! ## xorshift64* -/

/-- The state step of `SimpleRand`, `NextRand` and `PingJitter::NextSample`. -/
def xorshift (x : UInt64) : UInt64 :=
  let x := x ^^^ (x >>> 12)
  let x := x ^^^ (x <<< 25)
  x ^^^ (x >>> 27)

/-- The output multiplier of the generator. -/
def kXorshiftMultiplier : UInt64 := 0x2545F4914F6CDD1D

/-- A generator on a state of its caller's: the output and the state left behind. A zero
state is replaced before the step. -/
def xorshiftRand (state : UInt64) : UInt64 × UInt64 :=
  let x := xorshift (if state = 0 then 0x9E3779B97F4A7C15 else state)
  (x * kXorshiftMultiplier, x)

/-- `SimpleRand`, which the slot manager draws from. -/
def simpleRand (state : UInt64) : UInt64 × UInt64 := xorshiftRand state

/-- `NextRand`, which the identity pool draws from. -/
def nextRand (state : UInt64) : UInt64 × UInt64 := xorshiftRand state

/-- A C `int` converted to `uint64_t`. -/
def toUint64 (n : Int) : UInt64 := UInt64.ofNat (n % 2 ^ 64).toNat

theorem toNat_toUint64 {n : Int} (h0 : 0 ≤ n) (h64 : n < 2 ^ 64) : (toUint64 n).toNat = n.toNat := by
  unfold toUint64
  rw [Int.emod_eq_of_lt h0 h64, UInt64.toNat_ofNat', Nat.mod_eq_of_lt (by omega)]

/-! ## Jitter -/

/-- `PingJitter`. -/
structure PingJitter where
  baseline : Int
  minimum : Int
  maximum : Int
  state : UInt64

/-- `PingJitter::PingJitter`, with the clock it reads as an argument. -/
def PingJitter.make (now : UInt64) (baseline minimum maximum : Int) : PingJitter :=
  let state := now ^^^ (toUint64 baseline * 0x9E3779B97F4A7C15) ^^^ 0xA0761D6478BD642F
  { baseline, minimum, maximum
    state := if state = 0 then 0xDEADBEEFCAFEBABE else state }

/-- `PingJitter::NextSample`. -/
def PingJitter.nextSample (j : PingJitter) : Int × PingJitter :=
  let x := xorshift j.state
  let r := x * kXorshiftMultiplier
  let span := (j.baseline + 9).tdiv 10
  let delta := (r % toUint64 (2 * span + 1)).toNat - span
  let v := max (j.baseline + delta) j.minimum
  (min v j.maximum, { j with state := x })

/-! ## Display -/

/-- `PingDisplay::kWindowTicks`. -/
abbrev kWindowTicks : Nat := 64

/-- `PingDisplay::kWriteEveryTicks`. -/
abbrev kWriteEveryTicks : Nat := 32

/-- `PingDisplay`; the ring index carries its bound. -/
structure PingDisplay where
  samples : Fin kWindowTicks → Int := fun _ => 0
  idx : Fin kWindowTicks := 0
  sum : Int := 0
  filled : Nat := 0
  ticksSinceWrite : Nat := 0
  lastWritten : Int := 0

/-- `PingDisplay::RecordSample`. -/
def PingDisplay.recordSample (d : PingDisplay) (latencyMs : Int) : PingDisplay :=
  let oldest := d.samples d.idx
  { d with
    samples := Function.update d.samples d.idx latencyMs
    sum := d.sum + (latencyMs - oldest)
    idx := d.idx + 1
    filled := if d.filled < kWindowTicks then d.filled + 1 else d.filled }

/-- `PingDisplay::CurrentAverage`. -/
def PingDisplay.currentAverage (d : PingDisplay) : Int :=
  if d.filled = 0 then 0 else d.sum.tdiv d.filled

/-- `PingDisplay::MaybeProduce`; `-1` skips this tick. -/
def PingDisplay.maybeProduce (d : PingDisplay) : Int × PingDisplay :=
  let ticks := d.ticksSinceWrite + 1
  if ticks < kWriteEveryTicks then (-1, { d with ticksSinceWrite := ticks })
  else
    let d := { d with ticksSinceWrite := 0 }
    if d.filled = 0 then (-1, d)
    else
      let avg := d.currentAverage
      if avg = d.lastWritten then (-1, d) else (avg, { d with lastWritten := avg })

end BotHider.Model
