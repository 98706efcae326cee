import BotHider.Model.Config
import BotHider.Ping.Meter
import Mathlib.Algebra.Order.Group.Abs
import Mathlib.Algebra.Order.Group.Int

/-!
# BotHider — published pings respect the configuration

From `config.json` to the published ping: the loaded range is valid for every file
(`Settings.valid_load`), an adoption draws its baseline from it, and no sample, sum or mean
leaves it.

* `Regular` — what holds of a slot's meter under the configured range.
* `regular_run` — every call keeps it, for every slot.
* `ping_respects_config` — the bounds on what is published.
-/

namespace BotHider.Model

open FakeClientManager

/-! ## The invariant -/

/-- The manager runs with the settings. -/
structure FakeClientManager.Configured (m : FakeClientManager) (settings : Settings) : Prop where
  enabled : m.fakePingEnabled = settings.fakePingEnabled
  minimum : m.fakePingMinimum = settings.fakePingMin
  maximum : m.fakePingMaximum = settings.fakePingMax

/-- The jitter works in the configured range. -/
structure PingJitter.Within (j : PingJitter) (settings : Settings) : Prop where
  ready : j.Ready
  minimum : j.minimum = settings.fakePingMin
  maximum : j.maximum = settings.fakePingMax

/-- A slot's meter is idle, silent because fake ping is disabled, or fed in the range. -/
def Meter.Regular (settings : Settings) (x : Meter) : Prop :=
  (x.managed = false ∧ x.display.sum = 0) ∨
    (settings.fakePingEnabled = false ∧ x.ping = 0 ∧ x.display.sum = 0) ∨
    (settings.fakePingEnabled = true ∧ ∃ j n, j.Within settings ∧ x.Fed j n)

variable {m : FakeClientManager} {settings : Settings} {slot : Slot}

/-! ## Adoption -/

/-- **Baseline.** The range of an adoption is positive, and its draw lies in it. -/
theorem within_adoptSlot (hs : settings.Valid) (hm : m.Configured settings) (a : Adoption)
    (now : UInt64) : ((m.adoptSlot slot a now).slots slot).jitter.Within settings := by
  obtain ⟨hone, hle, h999⟩ := hs
  unfold adoptSlot
  dsimp only
  rw [setSlot_slots_self, hm.minimum, hm.maximum]
  dsimp only [PingJitter.make]
  have hrange : (toUint64 (settings.fakePingMax - settings.fakePingMin + 1)).toNat =
      (settings.fakePingMax - settings.fakePingMin + 1).toNat :=
    toNat_toUint64 (by omega) (by omega)
  generalize (simpleRand m.rngState).1 = r
  have hdraw : (r % toUint64 (settings.fakePingMax - settings.fakePingMin + 1)).toNat <
      (settings.fakePingMax - settings.fakePingMin + 1).toNat := by
    rw [UInt64.toNat_mod, hrange]
    exact Nat.mod_lt _ (by omega)
  refine ⟨⟨hone, ?_, ?_, h999⟩, rfl, rfl⟩ <;> dsimp only <;> omega

theorem regular_adoptSlot (hs : settings.Valid) (hm : m.Configured settings) (a : Adoption)
    (now : UInt64) : ((m.adoptSlot slot a now).slots slot).meter.Regular settings := by
  cases henabled : settings.fakePingEnabled with
  | true =>
    exact Or.inr (Or.inr ⟨henabled, _, 0, within_adoptSlot hs hm a now,
      fed_adoptSlot (hm.enabled.trans henabled) a now⟩)
  | false =>
    refine Or.inr (Or.inl ⟨henabled, ?_, ?_⟩)
    · unfold adoptSlot ManagedSlot.meter
      dsimp only
      rw [setSlot_slots_self, hm.enabled, henabled]
      rfl
    · unfold adoptSlot ManagedSlot.meter
      dsimp only
      rw [setSlot_slots_self]
      rfl

theorem regular_cleared (s : ManagedSlot) : (clearedSlot s).meter.Regular settings :=
  Or.inl ⟨rfl, rfl⟩

/-! ## Every call -/

theorem configured_call (hm : m.Configured settings) (c : ManagerCall) :
    (m.call c).Configured settings := by
  cases c <;> exact ⟨hm.enabled, hm.minimum, hm.maximum⟩

/-- A call that keeps the slot keeps its meter regular. -/
theorem regular_of_keeps (hm : m.Configured settings)
    (h : (m.slots slot).meter.Regular settings) {c : ManagerCall} (hkeeps : c.Keeps slot) :
    ((m.call c).slots slot).meter.Regular settings := by
  rw [meter_call hkeeps]
  split
  · rename_i htick
    simp only [Bool.and_eq_true] at htick
    obtain ⟨-, hmanaged, henabled⟩ := htick
    rcases h with ⟨hidle, -⟩ | ⟨hdisabled, -⟩ | ⟨hon, j, n, hj, hfed⟩
    · exact absurd (hidle.symm.trans hmanaged) Bool.false_ne_true
    · rw [hm.enabled, hdisabled] at henabled
      cases henabled
    · exact Or.inr (Or.inr ⟨hon, j, n + 1, hj, hfed.tick⟩)
  · exact h

/-- **Step lemma.** Every call keeps every slot's meter regular. -/
theorem regular_call (hs : settings.Valid) (hm : m.Configured settings)
    (h : ∀ t, (m.slots t).meter.Regular settings) (c : ManagerCall) (slot : Slot) :
    ((m.call c).slots slot).meter.Regular settings := by
  by_cases hkeeps : c.Keeps slot
  · exact regular_of_keeps hm (h slot) hkeeps
  · cases c with
    | adoptSlot t a now =>
      obtain rfl : t = slot := not_not.mp hkeeps
      exact regular_adoptSlot hs hm a now
    | releaseSlot t =>
      obtain rfl : t = slot := not_not.mp hkeeps
      change ((m.setSlot t _).slots t).meter.Regular settings
      rw [setSlot_slots_self]
      exact regular_cleared _
    | releaseAll => exact regular_cleared _
    | _ => exact absurd trivial hkeeps

/-- **Run lemma.** -/
theorem regular_run (hs : settings.Valid) (calls : List ManagerCall) (hm : m.Configured settings)
    (h : ∀ t, (m.slots t).meter.Regular settings) :
    (Runs.exec FakeClientManager.call m calls).Configured settings ∧
      ∀ t, ((Runs.exec FakeClientManager.call m calls).slots t).meter.Regular settings := by
  exact Runs.exec_always (I := fun m : FakeClientManager => m.Configured settings ∧
      ∀ t, (m.slots t).meter.Regular settings) ⟨hm, h⟩ fun m c hm =>
    ⟨configured_call hm.1 c, regular_call hs hm.1 hm.2 c⟩

/-! ## What a regular meter shows -/

/-- What a display shows stays between bounds on its baseline and its samples. -/
theorem shown_bounds {s : ℕ → Int} {baseline lo hi : Int} {n : ℕ}
    (hbase : lo ≤ baseline ∧ baseline ≤ hi) (hlo : ∀ i, lo ≤ s i) (hhi : ∀ i, s i ≤ hi) :
    lo ≤ shown baseline s n ∧ shown baseline s n ≤ hi := by
  have h32 : kWriteEveryTicks = 32 := rfl
  unfold shown
  split
  · exact hbase
  · rename_i hn
    simp only [h32] at hn ⊢
    exact ⟨le_windowMean (by omega) hlo, windowMean_le (by omega) hhi⟩

/-- The running sum of a fed meter. -/
theorem sum_of_fed {j : PingJitter} {n : ℕ} {x : Meter} (hj : j.Ready) (h : x.Fed j n) :
    0 ≤ x.display.sum ∧ x.display.sum ≤ kWindowTicks * 999 := by
  have hring : x.display.ring = Window.fill j.sample n :=
    (congrArg (fun y => y.1.ring) h.2.2).trans ring_feed
  have hsum : x.display.sum = ∑ i ∈ Finset.Ico (n - kWindowTicks) n, j.sample i :=
    (congrArg Window.Ring.sum hring).trans Window.sum_fill
  have hlo : ∀ i, 0 ≤ j.sample i := fun i => by
    have h1 := (hj.sample i).1
    have h2 := hj.one_le
    omega
  have hhi : ∀ i, j.sample i ≤ 999 := fun i => (hj.sample i).2.1.trans hj.max_le
  have hcard : (Finset.Ico (n - kWindowTicks) n).card ≤ kWindowTicks := by
    rw [card_window]
    exact Nat.min_le_left _ _
  rw [hsum]
  refine ⟨Finset.sum_nonneg fun i _ => hlo i, ?_⟩
  calc ∑ i ∈ Finset.Ico (n - kWindowTicks) n, j.sample i
      ≤ (Finset.Ico (n - kWindowTicks) n).card • (999 : Int) :=
        Finset.sum_le_card_nsmul _ _ _ fun i _ => hhi i
    _ = ((Finset.Ico (n - kWindowTicks) n).card : Int) * 999 := nsmul_eq_mul _ _
    _ ≤ kWindowTicks * 999 := by omega

/-- The running sum of a regular meter. -/
theorem Meter.Regular.sum {x : Meter} (h : x.Regular settings) :
    0 ≤ x.display.sum ∧ x.display.sum < 2 ^ 31 := by
  rcases h with ⟨-, hsum⟩ | ⟨-, -, hsum⟩ | ⟨-, j, n, hj, hfed⟩
  · rw [hsum]
    decide
  · rw [hsum]
    decide
  · obtain ⟨hlo, hhi⟩ := sum_of_fed hj.ready hfed
    have hwin : ((kWindowTicks : ℕ) : Int) = 64 := rfl
    rw [hwin] at hhi
    exact ⟨hlo, by omega⟩

/-- A regular meter shows a ping in the range and near its baseline. -/
theorem Meter.Regular.ping {x : Meter} (h : x.Regular settings) (hmanaged : x.managed = true)
    (henabled : settings.fakePingEnabled = true) :
    settings.fakePingMin ≤ x.ping ∧ x.ping ≤ settings.fakePingMax ∧
      |x.ping - x.jitter.baseline| ≤ (x.jitter.baseline + 9) / 10 := by
  rcases h with ⟨hidle, -⟩ | ⟨hdisabled, -⟩ | ⟨-, j, n, hj, -, hjitter, hfeed⟩
  · exact absurd (hidle.symm.trans hmanaged) Bool.false_ne_true
  · exact absurd (hdisabled.symm.trans henabled) Bool.false_ne_true
  have hsample := hj.ready.sample
  have hping : x.ping = shown j.baseline j.sample n :=
    (congrArg Prod.snd hfeed).trans (feed_shows fun i => hj.ready.one_le.trans (hsample i).1).2.2
  have hspread : 0 ≤ j.spread := by
    have h1 := hj.ready.one_le
    have h2 := hj.ready.min_le
    unfold PingJitter.spread
    omega
  obtain ⟨hmin, hmax⟩ := shown_bounds (n := n) ⟨hj.ready.min_le, hj.ready.le_max⟩
    (fun i => (hsample i).1) fun i => (hsample i).2.1
  have hbase : j.baseline - j.spread ≤ j.baseline ∧ j.baseline ≤ j.baseline + j.spread := by omega
  obtain ⟨hlo, hhi⟩ := shown_bounds (n := n) hbase (fun i => (hsample i).2.2.1)
    fun i => (hsample i).2.2.2
  rw [hjitter, (baseline_after n).1, hping, abs_le]
  rw [hj.minimum] at hmin
  rw [hj.maximum] at hmax
  unfold PingJitter.spread at hlo hhi
  exact ⟨hmin, hmax, by omega, by omega⟩

theorem Meter.Regular.silent {x : Meter} (h : x.Regular settings) (hmanaged : x.managed = true)
    (hdisabled : settings.fakePingEnabled = false) : x.ping = 0 := by
  rcases h with ⟨hidle, -⟩ | ⟨-, hping, -⟩ | ⟨henabled, -⟩
  · exact absurd (hidle.symm.trans hmanaged) Bool.false_ne_true
  · exact hping
  · exact absurd (hdisabled.symm.trans henabled) Bool.false_ne_true

/-- **Configuration.** Every file loads a range between 1 and 999. With any such range, and
after any calls from `Init` on, an adoption's range is positive, no running sum leaves 32 bits,
and a managed slot publishes a ping of the range within a tenth of its baseline, rounded up, or
`0` when fake ping is disabled. -/
theorem ping_respects_config (file : ConfigFile) : (Settings.load file).Valid ∧
    ∀ settings : Settings, settings.Valid →
      ∀ (m : FakeClientManager) (now : UInt64) (calls : List ManagerCall),
        let start := (m.configureFakePing settings.fakePingEnabled settings.fakePingMin
          settings.fakePingMax).init now
        let final := Runs.exec FakeClientManager.call start calls
        0 < final.fakePingMaximum - final.fakePingMinimum + 1 ∧
        ∀ slot : Slot,
          let s := final.slots slot
          0 ≤ s.display.sum ∧ s.display.sum < 2 ^ 31 ∧
          (s.snapshot.managed = true → settings.fakePingEnabled = true →
            settings.fakePingMin ≤ s.snapshot.ping ∧ s.snapshot.ping ≤ settings.fakePingMax ∧
            |s.snapshot.ping - s.jitter.baseline| ≤ (s.jitter.baseline + 9) / 10) ∧
          (s.snapshot.managed = true → settings.fakePingEnabled = false →
            s.snapshot.ping = 0) := by
  refine ⟨Settings.valid_load file, fun settings hs m now calls => ?_⟩
  have hstart : ((m.configureFakePing settings.fakePingEnabled settings.fakePingMin
      settings.fakePingMax).init now).Configured settings := ⟨rfl, rfl, rfl⟩
  obtain ⟨hconf, hregular⟩ := regular_run hs calls hstart fun _ => Or.inl ⟨rfl, rfl⟩
  dsimp only
  refine ⟨?_, fun slot => ?_⟩
  · rw [hconf.minimum, hconf.maximum]
    have := hs.min_le_max
    omega
  have hslot := hregular slot
  exact ⟨hslot.sum.1, hslot.sum.2, hslot.ping, hslot.silent⟩

/-- An adoption and enough ticks for a first write. -/
def firstWrite : List ManagerCall := .adoptSlot 0 plainAdoption 3 :: List.replicate 33 .onTick

/-- The default settings, from `Init` to the first write. -/
def firstWriteManager (settings : Settings) : FakeClientManager :=
  Runs.exec FakeClientManager.call ((freshManager.configureFakePing settings.fakePingEnabled
    settings.fakePingMin settings.fakePingMax).init 5) firstWrite

theorem ping_respects_config_first :
    ({} : Settings).fakePingMin ≤ ((firstWriteManager {}).slots 0).snapshot.ping := by
  have hslot := ((ping_respects_config .missing).2 {} Settings.valid_default freshManager 5
    firstWrite).2 0
  unfold firstWriteManager
  exact (hslot.2.2.1 (by decide +kernel) (by decide)).1

end BotHider.Model
