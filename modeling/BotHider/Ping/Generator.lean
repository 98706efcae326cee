import BotHider.Lib.Xorshift
import BotHider.Ping.Meter

/-!
# BotHider — the generators never stick

The xorshift64* step composes three shift-xor maps and is injective, so on 64-bit words it is
a bijection; it fixes `0`, so no other state leads there. `PingJitter` has no zero guard in
its step and needs none: its constructor never leaves a zero state (`make_state_ne_zero`).
-/

namespace BotHider.Model

/-! ## The step and the output -/

theorem toBitVec_xorshift (x : UInt64) : (xorshift x).toBitVec =
    let a := x.toBitVec ^^^ (x.toBitVec >>> 12)
    let b := a ^^^ (a <<< 25)
    b ^^^ (b >>> 27) := rfl

theorem xorshift_injective : Function.Injective xorshift := by
  intro x y h
  have hbits := congrArg UInt64.toBitVec h
  rw [toBitVec_xorshift, toBitVec_xorshift] at hbits
  have h27 := Xorshift.xorShiftRight_injective (by decide) hbits
  have h25 := Xorshift.xorShiftLeft_injective (by decide) h27
  exact UInt64.toBitVec_inj.mp (Xorshift.xorShiftRight_injective (by decide) h25)

theorem xorshift_zero : xorshift 0 = 0 := rfl

instance finiteUInt64 : Finite UInt64 :=
  Finite.of_injective UInt64.toFin fun _ _ => UInt64.toFin_inj.mp

theorem xorshift_bijective : Function.Bijective xorshift :=
  Finite.injective_iff_bijective.mp xorshift_injective

/-- The output of the generator in a state the step left behind. -/
def xorshiftOutput (x : UInt64) : UInt64 := x * kXorshiftMultiplier

/-- What undoes the output multiplication: the multiplier is odd. -/
def kXorshiftInverse : UInt64 := 0x59071D96D81ECD35

theorem xorshiftOutput_bijective : Function.Bijective xorshiftOutput := by
  have hinv : kXorshiftMultiplier * kXorshiftInverse = 1 := by decide
  refine Finite.injective_iff_bijective.mp fun x y h => ?_
  have hmul := congrArg (· * kXorshiftInverse) h
  simpa only [xorshiftOutput, UInt64.mul_assoc, hinv, UInt64.mul_one] using hmul

theorem xorshiftOutput_ne_zero {x : UInt64} (hx : x ≠ 0) : xorshiftOutput x ≠ 0 := fun h =>
  hx (xorshiftOutput_bijective.injective (h.trans (UInt64.zero_mul).symm))

theorem xorshift_ne_zero {x : UInt64} (hx : x ≠ 0) : xorshift x ≠ 0 :=
  Xorshift.iterate_ne_of_fixed xorshift_injective xorshift_zero hx 1

/-! ## SimpleRand and NextRand -/

/-- The state of a generator after `n` calls. -/
def randState (rand : UInt64 → UInt64 × UInt64) (seed : UInt64) (n : ℕ) : UInt64 :=
  (fun s => (rand s).2)^[n] seed

theorem xorshiftRand_state {s : UInt64} (hs : s ≠ 0) : (xorshiftRand s).2 = xorshift s := by
  unfold xorshiftRand
  rw [if_neg hs]

theorem xorshiftRand_state_ne_zero (s : UInt64) : (xorshiftRand s).2 ≠ 0 := by
  unfold xorshiftRand
  dsimp only
  split
  · exact xorshift_ne_zero (by decide)
  · exact xorshift_ne_zero ‹_›

theorem randState_succ (seed : UInt64) (n : ℕ) :
    randState xorshiftRand seed (n + 1) = (xorshiftRand (randState xorshiftRand seed n)).2 :=
  Function.iterate_succ_apply' ..

/-- From the first call on a generator only steps. -/
theorem randState_eq_iterate (seed : UInt64) (n : ℕ) :
    randState xorshiftRand seed (n + 1) = xorshift^[n] (xorshiftRand seed).2 := by
  induction n with
  | zero => rfl
  | succ n ih =>
    rw [randState_succ, Function.iterate_succ_apply', ← ih]
    refine xorshiftRand_state ?_
    rw [randState_succ]
    exact xorshiftRand_state_ne_zero _

theorem randState_periodic (seed : UInt64) :
    ∃ p > 0, ∀ n,
      randState xorshiftRand seed (n + 1 + p) = randState xorshiftRand seed (n + 1) := by
  obtain ⟨p, hp, hcycle⟩ := Xorshift.exists_period xorshift_injective (xorshiftRand seed).2
  refine ⟨p, hp, fun n => ?_⟩
  rw [Nat.add_right_comm, randState_eq_iterate, randState_eq_iterate, hcycle]

/-! ## PingJitter -/

/-- The word `NextSample` takes its sample from. -/
def PingJitter.draw (j : PingJitter) : UInt64 := xorshiftOutput j.nextSample.2.state

variable {j : PingJitter}

/-- The constructor never leaves a zero state. -/
theorem make_state_ne_zero (now : UInt64) (baseline minimum maximum : Int) :
    (PingJitter.make now baseline minimum maximum).state ≠ 0 := by
  unfold PingJitter.make
  dsimp only
  split
  · decide
  · assumption

theorem after_eq (j : PingJitter) (n : ℕ) :
    j.after n = { j with state := xorshift^[n] j.state } := by
  induction n with
  | zero => rfl
  | succ n ih =>
    rw [PingJitter.after, ih, Function.iterate_succ_apply']
    rfl

theorem after_state_ne_zero (hj : j.state ≠ 0) (n : ℕ) : (j.after n).state ≠ 0 := by
  rw [after_eq]
  exact Xorshift.iterate_ne_of_fixed xorshift_injective xorshift_zero hj n

theorem after_periodic (j : PingJitter) : ∃ p > 0, ∀ n, j.after (n + p) = j.after n := by
  obtain ⟨p, hp, hcycle⟩ := Xorshift.exists_period xorshift_injective j.state
  refine ⟨p, hp, fun n => ?_⟩
  rw [after_eq, after_eq, hcycle]

/-- **Generators.** The step is a bijection that fixes `0`, and so is the output
multiplication. From any seed `SimpleRand` and `NextRand` are in nonzero states after the
first call, never output `0` and go round a cycle from then on; a `PingJitter` does from its
construction on. Different nonzero states give different outputs. -/
theorem generators_never_stick :
    (Function.Bijective xorshift ∧ xorshift 0 = 0 ∧ Function.Bijective xorshiftOutput) ∧
    (∀ rand ∈ [simpleRand, nextRand],
      (∀ seed, (∀ n, randState rand seed (n + 1) ≠ 0 ∧ (rand (randState rand seed n)).1 ≠ 0) ∧
        ∃ p > 0, ∀ n, randState rand seed (n + 1 + p) = randState rand seed (n + 1)) ∧
      ∀ s t : UInt64, s ≠ 0 → t ≠ 0 → s ≠ t → (rand s).1 ≠ (rand t).1) ∧
    (∀ now baseline minimum maximum,
      let j := PingJitter.make now baseline minimum maximum
      (∀ n, (j.after n).state ≠ 0 ∧ (j.after n).draw ≠ 0) ∧
        ∃ p > 0, ∀ n, j.after (n + p) = j.after n) ∧
    ∀ j j' : PingJitter, j.state ≠ j'.state → j.draw ≠ j'.draw := by
  refine ⟨⟨xorshift_bijective, xorshift_zero, xorshiftOutput_bijective⟩, fun rand hrand => ?_,
    fun now baseline minimum maximum => ?_, fun j j' hj heq => hj ?_⟩
  · -- both are the one generator
    have hone : rand = xorshiftRand := by
      rcases List.mem_pair.mp hrand with rfl | rfl
      · rfl
      · rfl
    subst hone
    refine ⟨fun seed => ⟨fun n => ⟨?_, xorshiftOutput_ne_zero (xorshiftRand_state_ne_zero _)⟩,
      randState_periodic seed⟩, fun s t hs ht hst heq => hst ?_⟩
    · rw [randState_succ]
      exact xorshiftRand_state_ne_zero _
    · have hstate := xorshiftOutput_bijective.injective heq
      exact xorshift_injective
        ((xorshiftRand_state hs).symm.trans (hstate.trans (xorshiftRand_state ht)))
  · have hseed := make_state_ne_zero now baseline minimum maximum
    refine ⟨fun n => ⟨after_state_ne_zero hseed n, ?_⟩, after_periodic _⟩
    exact xorshiftOutput_ne_zero (after_state_ne_zero hseed (n + 1))
  · exact xorshift_injective (xorshiftOutput_bijective.injective heq)

end BotHider.Model
