import BotHider.Lib.Decimal
import BotHider.Model.JsonText

/-!
# BotHider — reading the texts of documents

A reader of JSON texts that takes one character at a time, as the plugin's parser does. It reads
every text of the flair generator back (`readJson_toJsonString`): what the writer puts between
the marks is white space, and what follows a number or a name is one of them.
-/

namespace BotHider.Model

/-! ## The reader -/

/-- What the characters so far leave a reader in: between tokens, in a number or a name, in a
string, behind a backslash in it, or in the digits of a `\u`. A high surrogate waits for its
low one. -/
inductive ReadMode
  | between
  | bare (text : List Char)
  | quoted (text : List Char) (high : Option Nat)
  | escape (text : List Char) (high : Option Nat)
  | unit (text : List Char) (high : Option Nat) (digits : List Nat)

/-- What may come next: a value, an element or the end of its array, a member or the end of its
object, a key, a colon, or what follows a value. -/
inductive ReadPlace
  | value
  | element
  | member
  | key
  | colon
  | next

/-- An array or object that is not over. -/
inductive ReadFrame
  | arr (elements : List Json)
  | obj (members : List (String × Json)) (key : Option String)

structure JsonReader where
  mode : ReadMode := .between
  place : ReadPlace := .value
  frames : List ReadFrame := []
  root : Option Json := none

/-- White space of JSON. -/
def isJsonSpace (c : Char) : Bool := c == ' ' || c == '\t' || c == '\n' || c == '\r'

/-- A character of a number or a name. -/
def isBare (c : Char) : Bool :=
  !isJsonSpace c && c != '"' && c != '[' && c != ']' && c != '\x7b' && c != '\x7d' && c != ',' &&
    c != ':'

/-- The value of a hexadecimal digit. -/
def hexValue (c : Char) : Option Nat :=
  if c.isDigit then some (c.toNat - '0'.toNat)
  else if 'A' ≤ c ∧ c ≤ 'F' then some (c.toNat - 'A'.toNat + 10)
  else if 'a' ≤ c ∧ c ≤ 'f' then some (c.toNat - 'a'.toNat + 10)
  else none

/-- What a character behind a backslash stands for. -/
def unescape (c : Char) : Option Char :=
  if c = '"' ∨ c = '\\' ∨ c = '/' then some c
  else if c = 'b' then some '\x08'
  else if c = 't' then some '\t'
  else if c = 'n' then some '\n'
  else if c = 'f' then some '\x0c'
  else if c = 'r' then some '\r'
  else none

/-- A name or a number. -/
def readBare (text : List Char) : Option Json :=
  if text = "null".toList then some .null
  else if text = "true".toList then some (.bool true)
  else if text = "false".toList then some (.bool false)
  else Json.ofNumber text

namespace ReadPlace

/-- A value may come. -/
def takesValue : ReadPlace → Bool
  | .value | .element => true
  | _ => false

/-- A key may come. -/
def takesKey : ReadPlace → Bool
  | .member | .key => true
  | _ => false

end ReadPlace

namespace JsonReader

/-- The reader behind a value, in the arrays and objects it is in. -/
def behind (value : Json) : List ReadFrame → JsonReader
  | [] => { place := .next, root := some value }
  | .arr elements :: frames => { place := .next, frames := .arr (elements ++ [value]) :: frames }
  | .obj members (some key) :: frames =>
    { place := .next, frames := .obj (members ++ [(key, value)]) none :: frames }
  | .obj members none :: frames => { place := .next, frames := .obj members none :: frames }

/-- A string is over. -/
def closeString (r : JsonReader) (text : List Char) : Option JsonReader :=
  if r.place.takesValue then some (behind (.str (Utf8.encode text)) r.frames)
  else
    match r.frames with
    | .obj members none :: frames =>
      if r.place.takesKey then
        some { place := .colon, frames := .obj members (some (String.ofList text)) :: frames }
      else none
    | _ => none

/-- A character between tokens. -/
def mark (r : JsonReader) (c : Char) : Option JsonReader :=
  if isJsonSpace c then some r
  else if c = '"' then some { r with mode := .quoted [] none }
  else if c = '[' then
    if r.place.takesValue then some { r with place := .element, frames := .arr [] :: r.frames }
    else none
  else if c = '\x7b' then
    if r.place.takesValue then
      some { r with place := .member, frames := .obj [] none :: r.frames }
    else none
  else if c = ']' then
    match r.place, r.frames with
    | .element, .arr elements :: frames | .next, .arr elements :: frames =>
      some (behind (.arr elements) frames)
    | _, _ => none
  else if c = '\x7d' then
    match r.place, r.frames with
    | .member, .obj members none :: frames | .next, .obj members none :: frames =>
      some (behind (.obj (members.insertionSort fun a b => a.1 ≤ b.1)) frames)
    | _, _ => none
  else if c = ',' then
    match r.place, r.frames with
    | .next, .arr _ :: _ => some { r with place := .value }
    | .next, .obj _ none :: _ => some { r with place := .key }
    | _, _ => none
  else if c = ':' then
    match r.place with
    | .colon => some { r with place := .value }
    | _ => none
  else if r.place.takesValue then some { r with mode := .bare [c] }
  else none

/-- The four digits of a `\u` are read. -/
def closeUnit (r : JsonReader) (text : List Char) (high : Option Nat) (unit : Nat) :
    Option JsonReader :=
  match high with
  | none =>
    if 0xD800 ≤ unit ∧ unit < 0xDC00 then some { r with mode := .quoted text (some unit) }
    else if 0xDC00 ≤ unit ∧ unit < 0xE000 then none
    else some { r with mode := .quoted (text ++ [Char.ofNat unit]) none }
  | some high =>
    if 0xDC00 ≤ unit ∧ unit < 0xE000 then
      let c := Char.ofNat (0x10000 + (high - 0xD800) * 0x400 + (unit - 0xDC00))
      some { r with mode := .quoted (text ++ [c]) none }
    else none

/-- One character. -/
def readChar (r : JsonReader) (c : Char) : Option JsonReader :=
  match r.mode with
  | .between => r.mark c
  | .bare text =>
    if isBare c then some { r with mode := .bare (text ++ [c]) }
    else (readBare text).bind fun value => (behind value r.frames).mark c
  | .quoted text high =>
    if c = '\\' then some { r with mode := .escape text high }
    else if high.isSome ∨ c < ' ' then none
    else if c = '"' then r.closeString text
    else some { r with mode := .quoted (text ++ [c]) none }
  | .escape text high =>
    if c = 'u' then some { r with mode := .unit text high [] }
    else if high.isSome then none
    else (unescape c).map fun c => { r with mode := .quoted (text ++ [c]) none }
  | .unit text high digits =>
    match digits, hexValue c with
    | [d₀, d₁, d₂], some d₃ =>
      r.closeUnit text high (((d₀ * 0x10 + d₁) * 0x10 + d₂) * 0x10 + d₃)
    | _, some d => some { r with mode := .unit text high (digits ++ [d]) }
    | _, none => none

/-- The document, when it is over. -/
def finish (r : JsonReader) : Option Json :=
  match r.mode, r.place, r.frames with
  | .between, .next, [] => r.root
  | .bare text, _, [] => readBare text
  | _, _, _ => none

end JsonReader

/-- The document of a text in UTF-8. -/
def readJson (bytes : Bytes) : Option Json :=
  let text := Utf8.decode bytes
  if Utf8.encode text = bytes then
    (text.foldlM JsonReader.readChar {}).bind JsonReader.finish
  else none

/-! ## Numbers and names -/

theorem isBare_eq_false {c : Char} (h : isBare c = false) :
    c ∈ [' ', '\t', '\n', '\r', '"', '[', ']', '\x7b', '\x7d', ',', ':'] := by
  simp only [isBare, isJsonSpace, Bool.and_eq_false_iff, Bool.not_eq_false', Bool.or_eq_true,
    beq_iff_eq, bne_eq_false_iff_eq] at h
  simp only [List.mem_cons, List.not_mem_nil, or_false]
  tauto

/-- No mark and no white space is part of a number. -/
theorem isBare_of_next {part part' : NumberPart} {c : Char} (h : part.next c = some part') :
    isBare c = true := by
  have hnone : ∀ c ∈ [' ', '\t', '\n', '\r', '"', '[', ']', '\x7b', '\x7d', ',', ':'],
      ∀ part : NumberPart, part.next c = none := by
    intro c hc part
    simp only [List.mem_cons, List.not_mem_nil, or_false] at hc
    rcases hc with rfl | rfl | rfl | rfl | rfl | rfl | rfl | rfl | rfl | rfl | rfl <;>
      cases part <;> rfl
  by_contra hbare
  rw [hnone c (isBare_eq_false (by simpa using hbare)) part] at h
  cases h

theorem isBare_of_foldlM {text : List Char} {part part' : NumberPart}
    (h : text.foldlM NumberPart.next part = some part') : ∀ c ∈ text, isBare c = true := by
  induction text generalizing part with
  | nil => exact fun c hc => nomatch hc
  | cons d text ih =>
    rw [List.foldlM_cons, Option.bind_eq_bind, Option.bind_eq_some_iff] at h
    obtain ⟨part₁, hd, hrest⟩ := h
    rintro c (_ | ⟨_, hc⟩)
    · exact isBare_of_next hd
    · exact ih hrest c hc

theorem foldlM_of_ofNumber {text : List Char} {value : Json} (h : Json.ofNumber text = some value) :
    text ≠ [] ∧ ∃ part, text.foldlM NumberPart.next .start = some part := by
  refine ⟨?_, ?_⟩
  · rintro rfl
    cases h
  · cases hpart : text.foldlM NumberPart.next .start with
    | none =>
      unfold Json.ofNumber at h
      rw [hpart] at h
      cases h
    | some part => exact ⟨part, rfl⟩

/-- Digits after the first one. -/
theorem foldlM_digits {digits : List Char} (h : ∀ c ∈ digits, c.isDigit = true) :
    digits.foldlM NumberPart.next .int = some .int := by
  induction digits with
  | nil => rfl
  | cons c digits ih =>
    obtain ⟨hc, hrest⟩ := List.forall_mem_cons.mp h
    have hnext : NumberPart.int.next c = some .int := by
      have hmark : ∀ d ∈ ['.', 'e', 'E'], c ≠ d := by
        rintro d hd rfl
        simp only [List.mem_cons, List.not_mem_nil, or_false] at hd
        rcases hd with rfl | rfl | rfl <;> cases hc
      have hpoint := hmark '.' (by simp)
      have hlower := hmark 'e' (by simp)
      have hupper := hmark 'E' (by simp)
      simp [NumberPart.next, NumberPart.digit, hpoint, hlower, hupper, hc]
    rw [List.foldlM_cons, hnext]
    exact ih hrest

/-- The digits of a number are one, with or without a sign. -/
theorem foldlM_toDigits {part : NumberPart} (hpart : part = .start ∨ part = .minus) (n : Nat) :
    ∃ part', (Nat.toDigits 10 n).foldlM NumberPart.next part = some part' ∧
      (part' = .zero ∨ part' = .int) := by
  have hdigits : ∀ c ∈ Nat.toDigits 10 n, c.isDigit = true := fun c hc =>
    Nat.isDigit_of_mem_toDigits (by decide) (by decide) hc
  by_cases hn : n = 0
  · subst hn
    exact ⟨.zero, by rcases hpart with rfl | rfl <;> rfl, Or.inl rfl⟩
  · refine ⟨.int, ?_, Or.inr rfl⟩
    have hhead := Decimal.head_toDigits hn
    obtain ⟨c, digits, heq⟩ := List.exists_cons_of_ne_nil (Nat.toDigits_ne_nil (n := n) (b := 10))
    rw [heq] at hdigits hhead ⊢
    obtain ⟨hc, hrest⟩ := List.forall_mem_cons.mp hdigits
    have hzero : c ≠ '0' := fun h => hhead (congrArg some h)
    have hminus : c ≠ '-' := by
      rintro rfl
      cases hc
    have hnext : part.next c = some .int := by
      rcases hpart with rfl | rfl <;> simp [NumberPart.next, NumberPart.digit, hzero, hminus, hc]
    rw [List.foldlM_cons, hnext]
    exact foldlM_digits hrest

theorem ofNumber_of_int {text : List Char} {part : NumberPart}
    (h : text.foldlM NumberPart.next .start = some part) (hint : part = .zero ∨ part = .int) :
    Json.ofNumber text = some (.ofInteger text) := by
  unfold Json.ofNumber
  rw [h]
  rcases hint with rfl | rfl <;> rfl

theorem ofNumber_unsigned (n : UInt64) :
    Json.ofNumber (Nat.toDigits 10 n.toNat) = some (.unsigned n) := by
  obtain ⟨part, hpart, hint⟩ := foldlM_toDigits (Or.inl rfl) n.toNat
  have hminus : (Nat.toDigits 10 n.toNat).head? ≠ some '-' := fun h => by
    have hdigit : '-'.isDigit = true :=
      Nat.isDigit_of_mem_toDigits (by decide) (by decide) (List.mem_of_head? h)
    cases hdigit
  rw [ofNumber_of_int hpart hint, Json.ofInteger, if_neg hminus, Nat.ofDigitChars_ten_toDigits]
  dsimp only
  rw [if_pos n.toNat_lt, UInt64.ofNat_toNat]

theorem ofNumber_integer {n : Int64} (h : n.toInt ≤ 0) :
    Json.ofNumber ('-' :: Nat.toDigits 10 n.toInt.natAbs) = some (.integer n) := by
  obtain ⟨part, hpart, hint⟩ := foldlM_toDigits (Or.inr rfl) n.toInt.natAbs
  have hlow := n.le_toInt
  have hle : n.toInt.natAbs ≤ 2 ^ 63 := by omega
  have hneg : -(n.toInt.natAbs : Int) = n.toInt := by omega
  have hall : ('-' :: Nat.toDigits 10 n.toInt.natAbs).foldlM NumberPart.next .start = some part :=
    hpart
  rw [ofNumber_of_int hall hint, Json.ofInteger, List.head?_cons, if_pos rfl,
    List.tail_cons, Nat.ofDigitChars_ten_toDigits]
  dsimp only
  rw [if_pos hle, hneg, Int64.ofInt_toInt]

/-- No name is a number. -/
theorem readBare_of_ofNumber {text : List Char} {value : Json}
    (h : Json.ofNumber text = some value) : readBare text = some value := by
  have hname : ∀ name ∈ ["null".toList, "true".toList, "false".toList], text ≠ name := by
    rintro name hname rfl
    simp only [List.mem_cons, List.not_mem_nil, or_false] at hname
    rcases hname with rfl | rfl | rfl <;> cases h
  unfold readBare
  rw [if_neg (hname _ (by simp)), if_neg (hname _ (by simp)), if_neg (hname _ (by simp)), h]

namespace JsonReader

variable {r r' : JsonReader} {text more : List Char}

theorem read_cons {c : Char} (h : r.readChar c = some r') (text : List Char) :
    (c :: text).foldlM readChar r = text.foldlM readChar r' := by
  rw [List.foldlM_cons, h]
  rfl

theorem read_append (h : text.foldlM readChar r = some r') (more : List Char) :
    (text ++ more).foldlM readChar r = more.foldlM readChar r' := by
  rw [List.foldlM_append, h]
  rfl

/-- A number or a name is over at the next mark. -/
theorem read_bare {text : List Char} (hne : text ≠ []) (hbare : ∀ c ∈ text, isBare c = true)
    {value : Json} (hvalue : readBare text = some value) {place : ReadPlace}
    (hplace : place.takesValue = true) (frames : List ReadFrame) {c : Char}
    (hc : isBare c = false) (rest : List Char) :
    (text ++ c :: rest).foldlM readChar { place, frames } =
      (c :: rest).foldlM readChar (behind value frames) := by
  obtain ⟨front, text, rfl⟩ := List.exists_cons_of_ne_nil hne
  obtain ⟨hfront, htext⟩ := List.forall_mem_cons.mp hbare
  have hfirst : readChar { place, frames } front =
      some { mode := .bare [front], place, frames } := by
    simp only [isBare, Bool.and_eq_true, Bool.not_eq_true', bne_iff_ne] at hfront
    simp [readChar, mark, hfront, hplace]
  have hmore : ∀ (before : List Char) (l : List Char), (∀ c ∈ l, isBare c = true) →
      l.foldlM readChar { mode := .bare before, place, frames } =
        some { mode := .bare (before ++ l), place, frames } := by
    intro before l hl
    induction l generalizing before with
    | nil => rw [List.append_nil]; rfl
    | cons d l ih =>
      obtain ⟨hd, hl⟩ := List.forall_mem_cons.mp hl
      have hstep : readChar { mode := .bare before, place, frames } d =
          some { mode := .bare (before ++ [d]), place, frames } := if_pos hd
      rw [read_cons hstep, ih _ hl, List.append_assoc, List.singleton_append]
  have hlast : readChar { mode := .bare (front :: text), place, frames } c =
      readChar (behind value frames) c := by
    have hmode : (behind value frames).mode = .between := by
      unfold behind
      split <;> rfl
    unfold readChar
    dsimp only
    rw [if_neg (by simp [hc]), hvalue, hmode]
    rfl
  rw [List.cons_append, read_cons hfirst, read_append (hmore [front] text htext),
    List.singleton_append, List.foldlM_cons, List.foldlM_cons, hlast]

/-! ## White space -/

theorem read_spaces (hmode : r.mode = .between) (h : ∀ c ∈ text, isJsonSpace c = true) :
    text.foldlM readChar r = some r := by
  induction text with
  | nil => rfl
  | cons c text ih =>
    obtain ⟨hc, hrest⟩ := List.forall_mem_cons.mp h
    have hskip : r.readChar c = some r := by
      unfold readChar mark
      rw [hmode, if_pos hc]
    rw [read_cons hskip, ih hrest]

variable (options : JsonOptions)

theorem isJsonSpace_of_indent {depth : Nat} :
    ∀ c ∈ options.indent depth, isJsonSpace c = true := by
  have hline : ∀ line : NewLine, ∀ c ∈ line.text, isJsonSpace c = true := by
    intro line
    cases line <;> exact List.all_eq_true.mp rfl
  intro c hc
  rcases List.mem_append.mp hc with hnew | hspace
  · exact hline _ c hnew
  · rw [List.eq_of_mem_replicate hspace]
    rfl

/-- A new line ends what is before it. -/
theorem exists_indent (depth : Nat) :
    ∃ c rest, options.indent depth = c :: rest ∧ isBare c = false := by
  unfold JsonOptions.indent
  cases options.newLine with
  | lf => exact ⟨_, _, rfl, rfl⟩
  | crlf => exact ⟨_, _, rfl, rfl⟩

/-! ## Strings -/

theorem hexValue_hexDigit : ∀ n < 16, hexValue (hexDigit n) = some n := by decide

/-- What the characters of a string are read in. -/
def inString (r : JsonReader) (text : List Char) (high : Option Nat) : JsonReader :=
  { r with mode := .quoted text high }

theorem read_escapeUnit (r : JsonReader) (text : List Char) (high : Option Nat) {unit : Nat}
    (h : unit < 0x10000) :
    (escapeUnit unit).foldlM readChar (r.inString text high) = r.closeUnit text high unit := by
  have h₀ := hexValue_hexDigit (unit / 0x1000) (by omega)
  have h₁ := hexValue_hexDigit (unit / 0x100 % 0x10) (by omega)
  have h₂ := hexValue_hexDigit (unit / 0x10 % 0x10) (by omega)
  have h₃ := hexValue_hexDigit (unit % 0x10) (by omega)
  have hunit : ((unit / 0x1000 * 0x10 + unit / 0x100 % 0x10) * 0x10 + unit / 0x10 % 0x10) * 0x10 +
      unit % 0x10 = unit := by omega
  have hslash : (r.inString text high).readChar '\\' =
      some { r with mode := .escape text high } := rfl
  have hu : readChar { r with mode := .escape text high } 'u' =
      some { r with mode := .unit text high [] } := rfl
  have hdigit : ∀ (digits : List Nat) (n : Nat), digits.length < 3 →
      hexValue (hexDigit n) = some n →
      readChar { r with mode := .unit text high digits } (hexDigit n) =
        some { r with mode := .unit text high (digits ++ [n]) } := by
    intro digits n hlen hn
    unfold readChar
    dsimp only
    rw [hn]
    match digits, hlen with
    | [], _ => rfl
    | [_], _ => rfl
    | [_, _], _ => rfl
  unfold escapeUnit
  rw [read_cons hslash, read_cons hu, read_cons (hdigit [] _ (by decide) h₀),
    read_cons (hdigit _ _ (by simp) h₁), read_cons (hdigit _ _ (by simp) h₂), List.foldlM_cons]
  have hlast : readChar { r with mode := (.unit text high
      ([] ++ [unit / 0x1000] ++ [unit / 0x100 % 0x10] ++ [unit / 0x10 % 0x10])) }
      (hexDigit (unit % 0x10)) = r.closeUnit text high unit := by
    unfold readChar
    dsimp only [List.nil_append, List.singleton_append, List.cons_append]
    rw [h₃]
    dsimp only
    rw [hunit]
    rfl
  rw [hlast]
  cases r.closeUnit text high unit <;> rfl

/-- A character is read back from its escape. -/
theorem read_escapeChar (r : JsonReader) (text : List Char) (c : Char) :
    (options.escapeChar c).foldlM readChar (r.inString text none) =
      some (r.inString (text ++ [c]) none) := by
  have hvalid := c.valid
  unfold UInt32.isValidChar Nat.isValidChar at hvalid
  change c.toNat < 0xD800 ∨ 0xDFFF < c.toNat ∧ c.toNat < 0x110000 at hvalid
  unfold JsonOptions.escapeChar
  split_ifs with h1 h2 h3 h4 h5 h6 h7 hhigh hescaped
  · subst h1
    rfl
  · subst h2
    rfl
  · subst h3
    rfl
  · subst h4
    rfl
  · subst h5
    rfl
  · subst h6
    rfl
  · subst h7
    rfl
  · -- the high surrogate waits for the low one
    have hfirst : (escapeUnit (0xD800 + (c.toNat - 0x10000) / 0x400)).foldlM readChar
        (r.inString text none) =
        some (r.inString text (some (0xD800 + (c.toNat - 0x10000) / 0x400))) := by
      rw [read_escapeUnit r text none (by omega)]
      exact if_pos (by omega)
    have hchar : 0x10000 + (0xD800 + (c.toNat - 0x10000) / 0x400 - 0xD800) * 0x400 +
        (0xDC00 + (c.toNat - 0x10000) % 0x400 - 0xDC00) = c.toNat := by omega
    rw [read_append hfirst, read_escapeUnit r text _ (by omega)]
    unfold closeUnit
    dsimp only
    rw [if_pos (by omega), hchar, Char.ofNat_toNat]
    rfl
  · rw [read_escapeUnit r text none (by omega)]
    unfold closeUnit
    dsimp only
    rw [if_neg (by omega), if_neg (by omega), Char.ofNat_toNat]
    rfl
  · have hcontrol : ¬ c < ' ' := fun h => hescaped (Or.inl h)
    have hraw : (r.inString text none).readChar c = some (r.inString (text ++ [c]) none) := by
      simp [readChar, inString, h1, h2, hcontrol]
    rw [read_cons hraw]
    rfl

theorem read_writeString (r : JsonReader) (hmode : r.mode = .between) (text : List Char) :
    (options.writeString text).foldlM readChar r = r.closeString text := by
  have hopen : r.readChar '"' = some (r.inString [] none) := by
    unfold readChar
    rw [hmode]
    rfl
  have hchars : ∀ before, (text.flatMap options.escapeChar).foldlM readChar
      (r.inString before none) = some (r.inString (before ++ text) none) := by
    induction text with
    | nil => exact fun before => by rw [List.append_nil]; rfl
    | cons c text ih =>
      intro before
      rw [List.flatMap_cons, read_append (read_escapeChar options r before c), ih,
        List.append_assoc, List.singleton_append]
  unfold JsonOptions.writeString
  rw [List.cons_append, read_cons hopen, read_append (hchars []), List.foldlM_cons]
  have hclose : (r.inString ([] ++ text) none).readChar '"' = r.closeString text := rfl
  rw [hclose]
  cases r.closeString text <;> rfl

/-! ## Values -/

/-- The end of an array or an object. -/
theorem read_close {place : ReadPlace} {elements : List Json} {frames : List ReadFrame}
    (h : place = .element ∨ place = .next) :
    readChar { place, frames := .arr elements :: frames } ']' =
      some (behind (.arr elements) frames) := by
  rcases h with rfl | rfl <;> rfl

theorem read_closeObject {place : ReadPlace} {members : List (String × Json)}
    {frames : List ReadFrame} (h : place = .member ∨ place = .next) :
    readChar { place, frames := .obj members none :: frames } '\x7d' =
      some (behind (.obj (members.insertionSort fun a b => a.1 ≤ b.1)) frames) := by
  rcases h with rfl | rfl <;> rfl

/-- What separates an element from the one in front of it, if there is one. -/
theorem read_separator (first : Bool) (depth : Nat) (elements : List Json)
    (frames : List ReadFrame) :
    ∃ place : ReadPlace, place.takesValue = true ∧
      ((if first then [] else [',']) ++ options.indent depth).foldlM readChar
        { place := if first then .element else .next, frames := .arr elements :: frames } =
      some { place, frames := .arr elements :: frames } := by
  cases first with
  | true => exact ⟨.element, rfl, read_spaces rfl (isJsonSpace_of_indent options)⟩
  | false =>
    have hcomma : readChar { place := .next, frames := .arr elements :: frames } ',' =
        some { place := .value, frames := .arr elements :: frames } := rfl
    refine ⟨.value, rfl, ?_⟩
    exact (read_cons hcomma _).trans (read_spaces rfl (isJsonSpace_of_indent options))

theorem read_memberSeparator (first : Bool) (depth : Nat) (members : List (String × Json))
    (frames : List ReadFrame) :
    ∃ place : ReadPlace, place.takesKey = true ∧ place.takesValue = false ∧
      ((if first then [] else [',']) ++ options.indent depth).foldlM readChar
        { place := if first then .member else .next, frames := .obj members none :: frames } =
      some { place, frames := .obj members none :: frames } := by
  cases first with
  | true => exact ⟨.member, rfl, rfl, read_spaces rfl (isJsonSpace_of_indent options)⟩
  | false =>
    have hcomma : readChar { place := .next, frames := .obj members none :: frames } ',' =
        some { place := .key, frames := .obj members none :: frames } := rfl
    refine ⟨.key, rfl, rfl, ?_⟩
    exact (read_cons hcomma _).trans (read_spaces rfl (isJsonSpace_of_indent options))

/-- A member's name, its colon and the blank behind it. -/
theorem read_key {place : ReadPlace} (hkey : place.takesKey = true)
    (hvalue : place.takesValue = false) (key : String) (members : List (String × Json))
    (frames : List ReadFrame) :
    (options.writeString key.toList ++ [':', ' ']).foldlM readChar
        { place, frames := .obj members none :: frames } =
      some { place := .value, frames := .obj members (some key) :: frames } := by
  have hstring : (options.writeString key.toList).foldlM readChar
      { place, frames := .obj members none :: frames } =
      some { place := .colon, frames := .obj members (some key) :: frames } := by
    rw [read_writeString options _ rfl]
    simp [closeString, hkey, hvalue]
  rw [read_append hstring]
  rfl

/-- What follows an element starts with a mark. -/
theorem exists_writeElements (depth : Nat) (elements : List Json) :
    ∃ c rest, options.writeElements depth false elements ++ [']'] = c :: rest ∧
      isBare c = false := by
  cases elements with
  | nil =>
    obtain ⟨c, rest, hindent, hc⟩ := exists_indent options depth
    refine ⟨c, rest ++ [']'], ?_, hc⟩
    show options.indent depth ++ [']'] = _
    rw [hindent, List.cons_append]
  | cons element elements => exact ⟨',', _, rfl, rfl⟩

theorem exists_writeMembers (depth : Nat) (members : List (String × Json)) :
    ∃ c rest, options.writeMembers depth false members ++ ['\x7d'] = c :: rest ∧
      isBare c = false := by
  cases members with
  | nil =>
    obtain ⟨c, rest, hindent, hc⟩ := exists_indent options depth
    refine ⟨c, rest ++ ['\x7d'], ?_, hc⟩
    show options.indent depth ++ ['\x7d'] = _
    rw [hindent, List.cons_append]
  | cons m members => exact ⟨',', _, rfl, rfl⟩

mutual

/-- **Values.** Where a value may come, one is read back from its text, at the mark behind it. -/
theorem read_writeValue : ∀ (value : Json), value.WellFormed → ∀ (depth : Nat)
    {place : ReadPlace}, place.takesValue = true → ∀ (frames : List ReadFrame) {c : Char},
    isBare c = false → ∀ rest : List Char,
    (options.writeValue depth value ++ c :: rest).foldlM readChar { place, frames } =
      (c :: rest).foldlM readChar (behind value.sorted frames)
  | .null, _, _, _, hplace, frames, _, hc, rest => by
    show ("null".toList ++ _).foldlM readChar _ = _
    exact read_bare (by decide) (List.all_eq_true.mp rfl) rfl hplace frames hc rest
  | .bool true, _, _, _, hplace, frames, _, hc, rest => by
    show ("true".toList ++ _).foldlM readChar _ = _
    exact read_bare (by decide) (List.all_eq_true.mp rfl) rfl hplace frames hc rest
  | .bool false, _, _, _, hplace, frames, _, hc, rest => by
    show ("false".toList ++ _).foldlM readChar _ = _
    exact read_bare (by decide) (List.all_eq_true.mp rfl) rfl hplace frames hc rest
  | .unsigned n, _, _, _, hplace, frames, _, hc, rest => by
    have hnumber := ofNumber_unsigned n
    obtain ⟨hne, part, hpart⟩ := foldlM_of_ofNumber hnumber
    exact read_bare hne (isBare_of_foldlM hpart) (readBare_of_ofNumber hnumber) hplace frames hc
      rest
  | .integer n, hn, _, _, hplace, frames, _, hc, rest => by
    have hnumber := ofNumber_integer hn
    obtain ⟨hne, part, hpart⟩ := foldlM_of_ofNumber hnumber
    exact read_bare hne (isBare_of_foldlM hpart) (readBare_of_ofNumber hnumber) hplace frames hc
      rest
  | .float text, hnumber, _, _, hplace, frames, _, hc, rest => by
    obtain ⟨hne, part, hpart⟩ := foldlM_of_ofNumber hnumber
    exact read_bare hne (isBare_of_foldlM hpart) (readBare_of_ofNumber hnumber) hplace frames hc
      rest
  | .str s, ⟨text, htext⟩, _, place, hplace, frames, c, _, rest => by
    subst htext
    have hstring : (options.writeString (Utf8.decode (Utf8.encode text))).foldlM readChar
        { place, frames } = some (behind (.str (Utf8.encode text)) frames) := by
      rw [read_writeString options _ rfl, Utf8.decode_encode]
      simp [closeString, hplace]
    exact read_append hstring _
  | .arr elements, hwf, depth, place, hplace, frames, c, _, rest => by
    have hopen : readChar { place, frames } '[' =
        some { place := .element, frames := .arr [] :: frames } := by
      simp [readChar, mark, isJsonSpace, hplace]
    have helements := read_writeElements elements hwf depth true [] frames
    refine read_append ?_ _
    exact (read_cons hopen _).trans helements
  | .obj members, ⟨_, hwf⟩, depth, place, hplace, frames, c, _, rest => by
    have hopen : readChar { place, frames } '\x7b' =
        some { place := .member, frames := .obj [] none :: frames } := by
      simp [readChar, mark, isJsonSpace, hplace]
    have hmembers := read_writeMembers members hwf depth true [] frames
    refine read_append ?_ _
    exact (read_cons hopen _).trans hmembers

theorem read_writeElements : ∀ (elements : List Json), Json.ElementsWellFormed elements →
    ∀ (depth : Nat) (first : Bool) (before : List Json) (frames : List ReadFrame),
    (options.writeElements depth first elements ++ [']']).foldlM readChar
        { place := if first then .element else .next, frames := .arr before :: frames } =
      some (behind (.arr (before ++ Json.sortedElements elements)) frames)
  | [], _, depth, first, before, frames => by
    rw [show before ++ Json.sortedElements [] = before from List.append_nil before]
    cases first with
    | true => exact read_cons (read_close (Or.inl rfl)) []
    | false =>
      refine (read_append (read_spaces rfl (isJsonSpace_of_indent options)) _).trans ?_
      exact read_cons (read_close (Or.inr rfl)) []
  | element :: elements, ⟨hwf, hrest⟩, depth, first, before, frames => by
    obtain ⟨place, hplace, hseparator⟩ :=
      read_separator options first (depth + 1) before frames
    obtain ⟨c, rest, hmore, hc⟩ := exists_writeElements options depth elements
    have hvalue := read_writeValue element hwf (depth + 1) hplace (.arr before :: frames) hc rest
    have htail := read_writeElements elements hrest depth false (before ++ [element.sorted]) frames
    rw [← hmore] at hvalue
    rw [show before ++ Json.sortedElements (element :: elements) =
      before ++ [element.sorted] ++ Json.sortedElements elements by
        rw [List.append_assoc]; rfl]
    have htext : options.writeElements depth first (element :: elements) ++ [']'] =
        ((if first then [] else [',']) ++ options.indent (depth + 1)) ++
          (options.writeValue (depth + 1) element ++
            (options.writeElements depth false elements ++ [']'])) := by
      simp [JsonOptions.writeElements]
    rw [htext, read_append hseparator, hvalue]
    exact htail

theorem read_writeMembers : ∀ (members : List (String × Json)), Json.MembersWellFormed members →
    ∀ (depth : Nat) (first : Bool) (before : List (String × Json)) (frames : List ReadFrame),
    (options.writeMembers depth first members ++ ['\x7d']).foldlM readChar
        { place := if first then .member else .next, frames := .obj before none :: frames } =
      some (behind (.obj ((before ++ Json.sortedMembers members).insertionSort
        fun a b => a.1 ≤ b.1)) frames)
  | [], _, depth, first, before, frames => by
    rw [show before ++ Json.sortedMembers [] = before from List.append_nil before]
    cases first with
    | true => exact read_cons (read_closeObject (Or.inl rfl)) []
    | false =>
      refine (read_append (read_spaces rfl (isJsonSpace_of_indent options)) _).trans ?_
      exact read_cons (read_closeObject (Or.inr rfl)) []
  | (key, value) :: members, ⟨hwf, hrest⟩, depth, first, before, frames => by
    obtain ⟨place, hkey, hnone, hseparator⟩ :=
      read_memberSeparator options first (depth + 1) before frames
    obtain ⟨c, rest, hmore, hc⟩ := exists_writeMembers options depth members
    have hname := read_key options hkey hnone key before frames
    have hplace : ReadPlace.value.takesValue = true := rfl
    have hvalue := read_writeValue value hwf (depth + 1) hplace
      (.obj before (some key) :: frames) hc rest
    have htail := read_writeMembers members hrest depth false (before ++ [(key, value.sorted)])
      frames
    rw [← hmore] at hvalue
    rw [show before ++ Json.sortedMembers ((key, value) :: members) =
      before ++ [(key, value.sorted)] ++ Json.sortedMembers members by
        rw [List.append_assoc]; rfl]
    have htext : options.writeMembers depth first ((key, value) :: members) ++ ['\x7d'] =
        ((if first then [] else [',']) ++ options.indent (depth + 1)) ++
          ((options.writeString key.toList ++ [':', ' ']) ++
            (options.writeValue (depth + 1) value ++
              (options.writeMembers depth false members ++ ['\x7d']))) := by
      simp [JsonOptions.writeMembers]
    rw [htext, read_append hseparator, read_append hname, hvalue]
    exact htail

end

end JsonReader

/-- **Round trip.** The text of a document, with a line end behind it, is read as the document. -/
theorem readJson_toJsonString (options : JsonOptions) {root : Json} (h : root.WellFormed) :
    readJson (Utf8.encode (options.toJsonString root ++ options.newLine.text)) =
      some root.sorted := by
  obtain ⟨c, rest, hline, hc, hspaces⟩ : ∃ c rest, options.newLine.text = c :: rest ∧
      isBare c = false ∧ ∀ d ∈ c :: rest, isJsonSpace d = true := by
    cases options.newLine with
    | lf => exact ⟨'\n', [], rfl, rfl, List.all_eq_true.mp rfl⟩
    | crlf => exact ⟨'\r', ['\n'], rfl, rfl, List.all_eq_true.mp rfl⟩
  have hplace : ReadPlace.value.takesValue = true := rfl
  have hread : (options.toJsonString root ++ options.newLine.text).foldlM JsonReader.readChar {} =
      some (JsonReader.behind root.sorted []) := by
    rw [hline]
    refine (JsonReader.read_writeValue options root h 0 hplace [] hc rest).trans ?_
    exact JsonReader.read_spaces rfl hspaces
  unfold readJson
  rw [Utf8.decode_encode]
  dsimp only
  rw [if_pos rfl, hread]
  rfl

end BotHider.Model
