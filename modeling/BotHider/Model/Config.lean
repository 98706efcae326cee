import BotHider.Model.Json
import BotHider.Model.ClientHooks

/-!
# BotHider — startup settings

`config.cpp`: the identity mode and the ping range of `config.json`. The file that is written
when there is none does not matter to this load, which goes on with the defaults.
-/

namespace BotHider.Model

/-- `config::Settings`. -/
structure Settings where
  botMode : Bool := false
  fakePingEnabled : Bool := true
  fakePingMin : Int := 20
  fakePingMax : Int := 90

/-- What opening and parsing `config.json` comes to. -/
inductive ConfigFile
  | missing
  | discarded
  | parsed (config : Json)

namespace Settings

/-- `readPing`: the value of a bound of the range, `output` when it is not given; `none` when
it is given and invalid. -/
def readPing (fakePing : Json) (key : String) (output : Int) : Option Int :=
  match fakePing.get? key with
  | none => some output
  | some it =>
    match it.asSigned? with
    | none => none
    | some n => if n < 1 ∨ n > 999 then none else some n.toInt32.toInt

/-- The part of `Load` about `identity_mode`. -/
def loadMode (config : Json) (settings : Settings) : Settings :=
  match config.get? "identity_mode" with
  | some (.str mode) => if mode = ascii "bot" then { settings with botMode := true } else settings
  | _ => settings

/-- The part of `Load` about `fake_ping`. -/
def loadPing (config : Json) (settings : Settings) : Settings :=
  match config.get? "fake_ping" with
  | some (.obj members) =>
    let fakePing := Json.obj members
    let settings :=
      match fakePing.get? "enabled" with
      | some (.bool enabled) => { settings with fakePingEnabled := enabled }
      | _ => settings
    match readPing fakePing "min" settings.fakePingMin,
      readPing fakePing "max" settings.fakePingMax with
    | some minimum, some maximum =>
      if minimum ≤ maximum then
        { settings with fakePingMin := minimum, fakePingMax := maximum }
      else settings
    | _, _ => settings
  | _ => settings

/-- `config::Load`. -/
def load (file : ConfigFile) : Settings :=
  match file with
  | .parsed (.obj members) => loadPing (.obj members) (loadMode (.obj members) {})
  | _ => {}

/-- A range the ping simulation can work with. -/
structure Valid (settings : Settings) : Prop where
  one_le_min : 1 ≤ settings.fakePingMin
  min_le_max : settings.fakePingMin ≤ settings.fakePingMax
  max_le : settings.fakePingMax ≤ 999

variable {settings : Settings}

theorem valid_default : Valid {} := ⟨by decide, by decide, by decide⟩

/-- A bound that is read lies in the range the default lies in. -/
theorem readPing_range {fakePing : Json} {key : String} {output value : Int}
    (hout : 1 ≤ output ∧ output ≤ 999) (h : readPing fakePing key output = some value) :
    1 ≤ value ∧ value ≤ 999 := by
  unfold readPing at h
  split at h
  · obtain rfl := Option.some.inj h
    exact hout
  · split at h
    · cases h
    · rename_i n _
      split at h
      · cases h
      · rename_i hn
        obtain rfl := Option.some.inj h
        rw [not_or, Int64.not_lt, Int64.not_lt, Int64.le_iff_toInt_le, Int64.le_iff_toInt_le] at hn
        obtain ⟨hlo, hhi⟩ := hn
        have h1 : (1 : Int64).toInt = 1 := rfl
        have h999 : (999 : Int64).toInt = 999 := rfl
        rw [h1] at hlo
        rw [h999] at hhi
        have hcast : n.toInt32.toInt = n.toInt := by
          rw [Int64.toInt_toInt32, Int.bmod_eq_of_le (by omega) (by omega)]
        rw [hcast]
        exact ⟨hlo, hhi⟩

theorem Valid.loadMode {config : Json} (h : settings.Valid) : (loadMode config settings).Valid := by
  unfold Settings.loadMode
  split
  · split
    · exact ⟨h.one_le_min, h.min_le_max, h.max_le⟩
    · exact h
  · exact h

theorem Valid.loadPing {config : Json} (h : settings.Valid) : (loadPing config settings).Valid := by
  have hmin : 1 ≤ settings.fakePingMin ∧ settings.fakePingMin ≤ 999 :=
    ⟨h.one_le_min, h.min_le_max.trans h.max_le⟩
  have hmax : 1 ≤ settings.fakePingMax ∧ settings.fakePingMax ≤ 999 :=
    ⟨h.one_le_min.trans h.min_le_max, h.max_le⟩
  unfold Settings.loadPing
  split
  case h_2 => exact h
  rename_i members _
  dsimp only
  -- the flag is taken on its own, so the range below is still the one passed in
  generalize hs : (match (Json.obj members).get? "enabled" with
    | some (.bool enabled) => { settings with fakePingEnabled := enabled }
    | _ => settings) = s
  have hrange : s.fakePingMin = settings.fakePingMin ∧ s.fakePingMax = settings.fakePingMax := by
    rw [← hs]
    split <;> exact ⟨rfl, rfl⟩
  have hvalid : s.Valid :=
    ⟨hrange.1 ▸ h.one_le_min, hrange.1 ▸ hrange.2 ▸ h.min_le_max, hrange.2 ▸ h.max_le⟩
  split
  · rename_i minimum maximum hminimum hmaximum
    split
    · rename_i hle
      exact ⟨(readPing_range (hrange.1 ▸ hmin) hminimum).1, hle,
        (readPing_range (hrange.2 ▸ hmax) hmaximum).2⟩
    · exact hvalid
  · exact hvalid

/-- **Settings.** Whatever the file holds, the loaded range is valid. -/
theorem valid_load (file : ConfigFile) : (load file).Valid := by
  unfold load
  split
  · exact (valid_default.loadMode).loadPing
  · exact valid_default

end Settings

end BotHider.Model
