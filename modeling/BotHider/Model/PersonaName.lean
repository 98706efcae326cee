import BotHider.Lib.Utf8
import BotHider.Model.Permissions

/-!
# BotHider — visible persona names

`BuildBoundedVisiblePersonaName` of `BridgeClient.cs` and what it asks of an element's runes.
The platform's tables are arguments: which category a rune has, and how a string is cut into
text elements.
-/

namespace BotHider.Model

/-! ## Runes and bytes -/

/-- `char.IsHighSurrogate`. -/
def isHighSurrogate (c : UInt16) : Bool := 0xD800 ≤ c && c ≤ 0xDBFF

/-- `char.IsLowSurrogate`. -/
def isLowSurrogate (c : UInt16) : Bool := 0xDC00 ≤ c && c ≤ 0xDFFF

/-- The rune of a code unit on its own; a lone surrogate reads as a replacement. -/
def unitRune (c : UInt16) : Char :=
  if isHighSurrogate c || isLowSurrogate c then '\uFFFD' else Char.ofNat c.toNat

/-- The rune of a surrogate pair. -/
def pairRune (high low : UInt16) : Char :=
  Char.ofNat (0x10000 + (high.toNat - 0xD800) * 0x400 + (low.toNat - 0xDC00))

/-- `string.EnumerateRunes`. -/
def enumerateRunes : Utf16 → List Char
  | [] => []
  | [c] => [unitRune c]
  | c :: next :: rest =>
    if isHighSurrogate c && isLowSurrogate next then pairRune c next :: enumerateRunes rest
    else unitRune c :: enumerateRunes (next :: rest)

/-- `Encoding.UTF8.GetBytes`. -/
def getBytes (s : Utf16) : Bytes := Utf8.encode (enumerateRunes s)

/-- `Encoding.UTF8.GetByteCount`. -/
def getByteCount (s : Utf16) : Nat := (getBytes s).length

/-- `Rune.IsWhiteSpace`. -/
def isWhiteSpaceRune (rune : Char) : Bool :=
  rune.toNat < 0x10000 && isWhiteSpace (UInt16.ofNat rune.toNat)

/-- `string.IsNullOrWhiteSpace`, of a string that is not null. -/
def isAllWhiteSpace (s : Utf16) : Bool := s.all isWhiteSpace

/-- `UnicodeCategory`. -/
inductive UnicodeCategory
  | uppercaseLetter | lowercaseLetter | titlecaseLetter | modifierLetter | otherLetter
  | nonSpacingMark | spacingCombiningMark | enclosingMark
  | decimalDigitNumber | letterNumber | otherNumber
  | spaceSeparator | lineSeparator | paragraphSeparator
  | control | format | surrogate | privateUse
  | connectorPunctuation | dashPunctuation | openPunctuation | closePunctuation
  | initialQuotePunctuation | finalQuotePunctuation | otherPunctuation
  | mathSymbol | currencySymbol | modifierSymbol | otherSymbol
  | otherNotAssigned
  deriving DecidableEq

/-- `BotHiderContract.MaxPlayerNameUtf8Bytes`. -/
def kMaxPlayerNameUtf8Bytes : Nat := 31

section

variable (category : Char → UnicodeCategory)

/-! ## Elements -/

/-- `IsInvisiblePersonaRune`. -/
def isInvisiblePersonaRune (rune : Char) : Bool :=
  match category rune with
  | .control | .format | .lineSeparator | .paragraphSeparator | .surrogate
  | .otherNotAssigned | .nonSpacingMark | .spacingCombiningMark | .enclosingMark => true
  | _ => false

/-- The loop of `IsInvisiblePersonaElement`. -/
def invisibleRunes : List Char → Bool
  | [] => true
  | rune :: runes =>
    if !isInvisiblePersonaRune category rune then false else invisibleRunes runes

/-- `IsInvisiblePersonaElement`. -/
def isInvisiblePersonaElement (element : Utf16) : Bool :=
  invisibleRunes category (enumerateRunes element)

/-- The loop of `IsWhitespacePersonaElement`, with `hasWhitespace` so far. -/
def whitespaceRunes : Bool → List Char → Bool
  | hasWhitespace, [] => hasWhitespace
  | hasWhitespace, rune :: runes =>
    if isWhiteSpaceRune rune then whitespaceRunes true runes
    else if !isInvisiblePersonaRune category rune then false
    else whitespaceRunes hasWhitespace runes

/-- `IsWhitespacePersonaElement`. -/
def isWhitespacePersonaElement (element : Utf16) : Bool :=
  whitespaceRunes category false (enumerateRunes element)

/-! ## The four loops -/

/-- The loop that collects `visibleElements`. -/
def collectVisible : List Utf16 → List Utf16 → List Utf16
  | visibleElements, [] => visibleElements
  | visibleElements, element :: elements =>
    if !isInvisiblePersonaElement category element then
      collectVisible (visibleElements ++ [element]) elements
    else collectVisible visibleElements elements

/-- Where the loop that advances `first` over the elements stops. -/
def advanceFirst : List Utf16 → Nat → Nat
  | [], first => first
  | element :: elements, first =>
    if isWhitespacePersonaElement category element then advanceFirst elements (first + 1)
    else first

/-- Where the loop that takes `last` down to `first` stops. -/
def retreatLast (visibleElements : List Utf16) (first : Nat) : Nat → Nat
  | 0 => 0
  | last + 1 =>
    if last + 1 > first ∧ (visibleElements[last]?).any (isWhitespacePersonaElement category) then
      retreatLast visibleElements first last
    else last + 1

/-- The loop that collects `boundedElements` and counts `utf8Bytes`. -/
def collectBounded : List Utf16 → Nat → List Utf16 → List Utf16
  | boundedElements, _, [] => boundedElements
  | boundedElements, utf8Bytes, element :: elements =>
    let elementBytes := getByteCount element
    if utf8Bytes + elementBytes > kMaxPlayerNameUtf8Bytes then boundedElements
    else collectBounded (boundedElements ++ [element]) (utf8Bytes + elementBytes) elements

/-- The loop that removes `boundedElements` from the end, for as many rounds. -/
def removeTrailing : Nat → List Utf16 → List Utf16
  | 0, boundedElements => boundedElements
  | rounds + 1, boundedElements =>
    match boundedElements.getLast? with
    | none => boundedElements
    | some element =>
      if isWhitespacePersonaElement category element then
        removeTrailing rounds boundedElements.dropLast
      else boundedElements

variable (textElements : Utf16 → List Utf16)

/-- `BuildBoundedVisiblePersonaName`. -/
def buildBoundedVisiblePersonaName : Option Utf16 → Utf16
  | none => []
  | some source =>
    if isAllWhiteSpace source then []
    else
      let visibleElements := collectVisible category [] (textElements source)
      let first := advanceFirst category visibleElements 0
      let last := retreatLast category visibleElements first visibleElements.length
      let boundedElements := collectBounded [] 0 ((visibleElements.take last).drop first)
      (removeTrailing category boundedElements.length boundedElements).flatten

end

end BotHider.Model
