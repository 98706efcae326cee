import BotHider.Lib.Utf8
import BotHider.Model.Json
import Mathlib.Data.List.Sort

/-!
# BotHider — the texts of documents

What `JsonNode.ToJsonString` writes under the `JsonOptions` of `Program.cs`: every value on a
line of its own, indented by four spaces, and strings through
`JavaScriptEncoder.UnsafeRelaxedJsonEscaping`. Reading the text gives the document back as
`nlohmann::json` holds it, with the members of every object in the order of their keys
(`Json.sorted`).
-/

namespace BotHider.Model

/-! ## Numbers -/

/-- How far into a number a text is. -/
inductive NumberPart
  | start
  | minus
  | zero
  | int
  | point
  | fraction
  | e
  | sign
  | exponent
  deriving DecidableEq

namespace NumberPart

/-- A digit, where one may come. -/
def digit (part : NumberPart) (c : Char) : Option NumberPart :=
  if !c.isDigit then none
  else
    match part with
    | .start | .minus | .int => some .int
    | .point | .fraction => some .fraction
    | .e | .sign | .exponent => some .exponent
    -- no digit follows a leading zero
    | .zero => none

/-- The grammar of numbers. -/
def next (part : NumberPart) (c : Char) : Option NumberPart :=
  match part with
  | .start => if c = '-' then some .minus else if c = '0' then some .zero else part.digit c
  | .minus => if c = '0' then some .zero else part.digit c
  | .zero | .int =>
    if c = '.' then some .point else if c = 'e' ∨ c = 'E' then some .e else part.digit c
  | .fraction => if c = 'e' ∨ c = 'E' then some .e else part.digit c
  | .e => if c = '+' ∨ c = '-' then some .sign else part.digit c
  | .point | .sign | .exponent => part.digit c

end NumberPart

/-- What an integer is read as: a float when 64 bits do not hold it. -/
def Json.ofInteger (text : List Char) : Json :=
  if text.head? = some '-' then
    let n := Nat.ofDigitChars 10 text.tail 0
    if n ≤ 2 ^ 63 then .integer (Int64.ofInt (-n)) else .float (String.ofList text)
  else
    let n := Nat.ofDigitChars 10 text 0
    if n < 2 ^ 64 then .unsigned (UInt64.ofNat n) else .float (String.ofList text)

/-- What a number is read as: an integer when it has neither fraction nor exponent. -/
def Json.ofNumber (text : List Char) : Option Json :=
  match text.foldlM NumberPart.next .start with
  | some .zero | some .int => some (.ofInteger text)
  | some .fraction | some .exponent => some (.float (String.ofList text))
  | _ => none

/-! ## Documents as they are read -/

namespace Json

mutual

/-- A document that a text can be read as: its strings are texts, only zero and negative
integers are signed, a float's text is one of a float, and no object has a member twice. -/
def WellFormed : Json → Prop
  | .integer n => n.toInt ≤ 0
  | .float text => Json.ofNumber text.toList = some (.float text)
  | .str s => Utf8.Valid s
  | .arr elements => ElementsWellFormed elements
  | .obj members => (members.map (·.1)).Nodup ∧ MembersWellFormed members
  | .null | .bool _ | .unsigned _ => True

def ElementsWellFormed : List Json → Prop
  | [] => True
  | element :: elements => element.WellFormed ∧ ElementsWellFormed elements

def MembersWellFormed : List (String × Json) → Prop
  | [] => True
  | (_, value) :: members => value.WellFormed ∧ MembersWellFormed members

end

mutual

/-- A document as `nlohmann::json` holds it: the members of every object are in the order of
their keys. -/
def sorted : Json → Json
  | .arr elements => .arr (sortedElements elements)
  | .obj members => .obj ((sortedMembers members).insertionSort fun a b => a.1 ≤ b.1)
  | .null => .null
  | .bool b => .bool b
  | .unsigned n => .unsigned n
  | .integer n => .integer n
  | .float text => .float text
  | .str s => .str s

def sortedElements : List Json → List Json
  | [] => []
  | element :: elements => element.sorted :: sortedElements elements

def sortedMembers : List (String × Json) → List (String × Json)
  | [] => []
  | (key, value) :: members => (key, value.sorted) :: sortedMembers members

end

end Json

/-! ## Writing -/

/-- `Environment.NewLine`. -/
inductive NewLine
  | lf
  | crlf

def NewLine.text : NewLine → List Char
  | .lf => ['\n']
  | .crlf => ['\r', '\n']

/-- What `JsonOptions` leave to the platform: its line end, and the characters between `U+0080`
and `U+FFFF` that the encoder's tables do not let through. -/
structure JsonOptions where
  newLine : NewLine
  escapes : Char → Bool

/-- `IndentSize`. -/
def kIndentSize : Nat := 4

/-- A hexadecimal digit, in upper case. -/
def hexDigit (n : Nat) : Char := if n < 10 then n.digitChar else Char.ofNat ('A'.toNat + (n - 10))

/-- `\uXXXX`, for a unit of UTF-16. -/
def escapeUnit (unit : Nat) : List Char :=
  ['\\', 'u', hexDigit (unit / 0x1000), hexDigit (unit / 0x100 % 0x10),
    hexDigit (unit / 0x10 % 0x10), hexDigit (unit % 0x10)]

namespace JsonOptions

variable (options : JsonOptions)

/-- `JavaScriptEncoder.UnsafeRelaxedJsonEscaping`, of one character. -/
def escapeChar (c : Char) : List Char :=
  if c = '"' then ['\\', '"']
  else if c = '\\' then ['\\', '\\']
  else if c = '\x08' then ['\\', 'b']
  else if c = '\t' then ['\\', 't']
  else if c = '\n' then ['\\', 'n']
  else if c = '\x0c' then ['\\', 'f']
  else if c = '\r' then ['\\', 'r']
  else if c.toNat ≥ 0x10000 then
    -- beyond the basic plane, as a pair of surrogates
    escapeUnit (0xD800 + (c.toNat - 0x10000) / 0x400) ++
      escapeUnit (0xDC00 + (c.toNat - 0x10000) % 0x400)
  else if c < ' ' ∨ c = '\x7f' ∨ ('\x7f' < c ∧ options.escapes c) then escapeUnit c.toNat
  else [c]

def writeString (text : List Char) : List Char :=
  '"' :: text.flatMap options.escapeChar ++ ['"']

/-- A new line, and the indentation of a depth. -/
def indent (depth : Nat) : List Char :=
  options.newLine.text ++ List.replicate (kIndentSize * depth) ' '

mutual

/-- A value at a depth. -/
def writeValue (depth : Nat) : Json → List Char
  | .null => "null".toList
  | .bool b => (if b then "true" else "false").toList
  | .unsigned n => Nat.toDigits 10 n.toNat
  -- negative, or `-0`
  | .integer n => '-' :: Nat.toDigits 10 n.toInt.natAbs
  | .float text => text.toList
  | .str s => options.writeString (Utf8.decode s)
  | .arr elements => '[' :: writeElements depth true elements ++ [']']
  | .obj members => '\x7b' :: writeMembers depth true members ++ ['\x7d']

/-- The elements of an array at a depth, from the first one on or not, up to its bracket. -/
def writeElements (depth : Nat) (first : Bool) : List Json → List Char
  | [] => if first then [] else options.indent depth
  | element :: elements =>
    (if first then [] else [',']) ++ options.indent (depth + 1) ++
      writeValue (depth + 1) element ++ writeElements depth false elements

/-- The members of an object, likewise. -/
def writeMembers (depth : Nat) (first : Bool) : List (String × Json) → List Char
  | [] => if first then [] else options.indent depth
  | (key, value) :: members =>
    (if first then [] else [',']) ++ options.indent (depth + 1) ++
      options.writeString key.toList ++ [':', ' '] ++ writeValue (depth + 1) value ++
      writeMembers depth false members

end

/-- `ToJsonString`. -/
def toJsonString (root : Json) : List Char := options.writeValue 0 root

end JsonOptions

end BotHider.Model
