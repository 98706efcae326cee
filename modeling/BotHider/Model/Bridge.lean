import Mathlib.Algebra.Group.Int.Defs
import Mathlib.Algebra.GroupWithZero.Nat
import Mathlib.Data.List.TakeWhile

/-!
# BotHider — the native bridge's data

The constants and the slot record of `bridge.h`. The plugin keeps one
`SlotSnapshot` per player slot; the managed client reads a copy of it.

C strings are byte lists: a `const char*` is `Option Bytes` (`none` for a null
pointer) and is read up to its first NUL (`cstr`), and a `char[n]` field is a
`CharBuf n`, which carries its size.
-/

namespace BotHider.Model

/-- `bridge::kMaxSlots`. -/
abbrev kMaxSlots : Nat := 64

/-- `bridge::kNameLen`. -/
abbrev kNameLen : Nat := 32

/-- `bridge::kCrosshairLen`. -/
abbrev kCrosshairLen : Nat := 64

/-- `bridge::kClanTagLen`. -/
abbrev kClanTagLen : Nat := 128

/-- `bridge::kAvatarMaxBytes`. -/
abbrev kAvatarMaxBytes : Nat := 16 * 1024

/-- A player slot that passed the range check `0 <= slot < kMaxSlots`. -/
abbrev Slot := Fin kMaxSlots

/-- There are slots, so that a numeral can name one. -/
instance : NeZero kMaxSlots := ⟨by decide⟩

/-- The range check every entry point makes on the `int` it is given. -/
def slotOf (slot : Int) : Option Slot :=
  if h : 0 ≤ slot ∧ slot < kMaxSlots then some ⟨slot.toNat, by omega⟩ else none

theorem slotOf_val (s : Slot) : slotOf s.val = some s := by
  have hs := s.isLt
  unfold slotOf
  rw [dif_pos (by omega)]
  rfl

/-- All slots, in the order the plugin's loops visit them. -/
def allSlots : List Slot := List.finRange kMaxSlots

theorem mem_allSlots (s : Slot) : s ∈ allSlots := List.mem_finRange s

theorem allSlots_nodup : allSlots.Nodup := List.nodup_finRange _

/-! ## Text -/

abbrev Bytes := List UInt8

/-- What a reader of a C string sees: the bytes before the first NUL. -/
def cstr (s : Bytes) : Bytes := s.takeWhile (· ≠ 0)

theorem zero_notMem_cstr (s : Bytes) : (0 : UInt8) ∉ cstr s := by
  intro h
  simpa using List.mem_takeWhile_imp h

theorem cstr_of_notMem {s : Bytes} (h : (0 : UInt8) ∉ s) : cstr s = s := by
  rw [cstr, List.takeWhile_eq_self_iff]
  intro b hb
  simp only [ne_eq, decide_not, Bool.not_eq_eq_eq_not, Bool.not_true, decide_eq_false_iff_not]
  rintro rfl
  exact h hb

/-- A fixed-size character buffer. -/
structure CharBuf (n : Nat) where
  bytes : Bytes
  size : bytes.length = n
  deriving DecidableEq

/-- `char field[n]{}`. -/
def CharBuf.zero (n : Nat) : CharBuf n := ⟨List.replicate n 0, List.length_replicate⟩

/-- The text a buffer holds: its bytes before the first NUL, or all of them. -/
def CharBuf.text {n : Nat} (buf : CharBuf n) : Bytes := cstr buf.bytes

/-- `CopyText`: zero the buffer, then `strncpy` at most `n - 1` bytes into it. -/
def copyText (n : Nat) (source : Option Bytes) : CharBuf n where
  bytes :=
    let copied := (cstr (source.getD [])).take (n - 1)
    copied ++ List.replicate (n - copied.length) 0
  size := by
    rw [List.length_append, List.length_replicate, List.length_take]
    omega

/-- A copied text is the source's, cut to the `n - 1` bytes the buffer has room for. -/
theorem text_copyText {n : Nat} (source : Option Bytes) :
    (copyText n source).text = (cstr (source.getD [])).take (n - 1) := by
  have hz : (0 : UInt8) ∉ (cstr (source.getD [])).take (n - 1) :=
    fun h => zero_notMem_cstr _ (List.mem_of_mem_take h)
  rw [CharBuf.text, copyText, cstr, List.takeWhile_append_of_pos]
  · rw [List.takeWhile_replicate]
    simp
  · intro b hb
    simp only [ne_eq, decide_not, Bool.not_eq_eq_eq_not, Bool.not_true, decide_eq_false_iff_not]
    rintro rfl
    exact hz hb

@[simp] theorem text_zero (n : Nat) : (CharBuf.zero n).text = [] := by
  rw [CharBuf.text, CharBuf.zero, cstr, List.takeWhile_replicate]
  simp

/-! ## The slot record -/

/-- `bridge::SlotSnapshot`. The source's two flags are words that are only ever
`0` or `1`. -/
structure SlotSnapshot where
  steamId : UInt64 := 0
  baseSteamId : UInt64 := 0
  incarnation : UInt64 := 0
  avatarSteamId : UInt64 := 0
  ping : Int := 0
  managed : Bool := false
  scoreboardFlair : UInt32 := 0
  clanGroupId : UInt32 := 0
  avatarLength : UInt32 := 0
  avatarApplied : Bool := false
  name : CharBuf kNameLen := .zero _
  baseName : CharBuf kNameLen := .zero _
  crosshair : CharBuf kCrosshairLen := .zero _
  clanTag : CharBuf kClanTagLen := .zero _

end BotHider.Model
