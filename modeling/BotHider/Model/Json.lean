import BotHider.Model.Bridge

/-!
# BotHider — configuration documents

A parsed document is a `Json` value, as `nlohmann::json` stores it: an integer keeps the
width the parser gave it, unsigned when it is nonnegative, and one beyond 64 bits is a float.
A float is known by its text. The members of an object come in the order the loaders iterate
them.
-/

namespace BotHider.Model

/-- A parsed JSON value. -/
inductive Json
  | null
  | bool (b : Bool)
  | unsigned (n : UInt64)
  | integer (n : Int64)
  | float (text : String)
  | str (s : Bytes)
  | arr (elements : List Json)
  | obj (members : List (String × Json))

namespace Json

/-- `value.contains(key)` and `value[key]` in one. -/
def get? (value : Json) (key : String) : Option Json :=
  match value with
  | .obj members => members.lookup key
  | _ => none

/-- `is_number_integer()`, with the value a comparison with an `int` looks at: an unsigned
one is converted to signed first. -/
def asSigned? : Json → Option Int64
  | .unsigned n => some n.toInt64
  | .integer n => some n
  | _ => none

/-- `is_number_unsigned()`, with the value. -/
def asUnsigned? : Json → Option UInt64
  | .unsigned n => some n
  | _ => none

/-- The integer a value denotes. -/
def toInt? : Json → Option Int
  | .unsigned n => some n.toNat
  | .integer n => some n.toInt
  | _ => none

variable {value : Json}

theorem toInt_toInt64 (u : UInt64) : u.toInt64.toInt = Int.bmod u.toNat (2 ^ 64) := by
  rw [← Int64.toInt_toBitVec, UInt64.toBitVec_toInt64, BitVec.toInt_eq_toNat_bmod]
  rfl

theorem exists_toInt {n : Int64} (hn : value.asSigned? = some n) : ∃ i, value.toInt? = some i := by
  cases value <;> first | exact ⟨_, rfl⟩ | cases hn

/-- **Mixed comparison.** A range check with nonnegative bounds sees through the conversion:
an integer too large for the signed type looks negative, and fails the check all the same. -/
theorem inRange_asSigned {n : Int64} {i lo hi : Int} (h0 : 0 ≤ lo) (h63 : hi < 2 ^ 63)
    (hn : value.asSigned? = some n) (hval : value.toInt? = some i) :
    (lo ≤ n.toInt ∧ n.toInt ≤ hi ↔ lo ≤ i ∧ i ≤ hi) ∧ (lo ≤ i → i ≤ hi → n.toInt = i) := by
  cases value with
  | unsigned u =>
    obtain rfl := Option.some.inj hn
    obtain rfl := Option.some.inj hval
    have hu := u.toNat_lt
    rw [toInt_toInt64, Int.bmod_def]
    split <;> omega
  | integer m =>
    obtain rfl := Option.some.inj hn
    obtain rfl := Option.some.inj hval
    exact ⟨Iff.rfl, fun _ _ => rfl⟩
  | _ => cases hn

end Json

end BotHider.Model
