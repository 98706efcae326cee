import BotHider.Model.BotInfo
import BotHider.Model.FlairGenerator
import BotHider.Model.JsonText

/-!
# BotHider — the document of the flair generator

`Program.cs` around the loop: which members of `players` it asks for, what it makes of the
document, and how the document is saved. A document is the `Json` value that `bot_info.cpp`
reads as well, so an integer is known by its value.

The entries of the loop refer to the objects of the document by their place in `players`.
-/

namespace BotHider.Model

/-! ## Integers in texts -/

/-- White space of `NumberStyles.Integer`. -/
def isIntegerSpace (c : Char) : Bool := c == ' ' || ('\t' ≤ c && c ≤ '\r')

/-- The sign of an integer, as `true` for a minus, and what follows it. -/
def readSign (text : List Char) : Bool × List Char :=
  match text with
  | '-' :: rest => (true, rest)
  | '+' :: rest => (false, rest)
  | _ => (false, text)

/-- `ulong.TryParse` and `uint.TryParse`, by the largest value: white space on both sides, a
sign, digits, NULs at the end. Only zero may have a minus sign. -/
def tryParseInteger (maxValue : Nat) (text : List Char) : Option Nat :=
  let signed := readSign (text.dropWhile isIntegerSpace)
  let digits := signed.2.takeWhile Char.isDigit
  let rest := (signed.2.dropWhile Char.isDigit).dropWhile isIntegerSpace
  let value := digits.foldl (fun n c => n * 10 + (c.toNat - '0'.toNat)) 0
  if digits = [] ∨ (signed.1 ∧ value ≠ 0) ∨ value > maxValue ∨ rest.any (· ≠ '\x00') then none
  else some value

/-- `steamId64Base`. -/
def steamId64Base : Nat := 76561197960265728

/-- `TryReadAccountId`: an account ID or an individual SteamID64. -/
def tryReadAccountId (text : String) : Option UInt32 :=
  match tryParseInteger (2 ^ 64 - 1) text.toList with
  | none => none
  | some value =>
    let value := if value ≥ steamId64Base then value - steamId64Base else value
    if value = 0 ∨ value > 2 ^ 32 - 1 then none else some (UInt32.ofNat value)

/-- `ReadUInt32`, of the text of the value. The bytes of a string beyond ASCII are no digit,
sign or white space in any reading. -/
def readUInt32 (node : Option Json) : UInt32 :=
  match node with
  | some (.unsigned n) => if n.toNat ≤ 2 ^ 32 - 1 then n.toUInt32 else 0
  | some (.integer n) =>
    if 0 ≤ n.toInt ∧ n.toInt ≤ 2 ^ 32 - 1 then UInt32.ofNat n.toInt.toNat else 0
  | some (.str s) =>
    match tryParseInteger (2 ^ 32 - 1) (s.map fun b => Char.ofNat b.toNat) with
    | some value => UInt32.ofNat value
    | none => 0
  | _ => 0

/-! ## Selecting the entries -/

/-- A `BotEntry`: the place of its object in `players`, and its account. -/
structure FlairRow where
  row : Nat
  accountId : UInt32

inductive ReadException
  | json (message : String)
  /-- `GetValue<string>` of something else. -/
  | invalidOperation

/-- One round of the loop of `ReadEntries`. -/
def readEntry (overwrite : Bool) (row : Nat) (accountIdText : String) (node : Json) :
    Except ReadException (Option FlairRow) :=
  match node, tryReadAccountId accountIdText with
  | .obj members, some accountId =>
    let item := Json.obj members
    match item.get? "player_name" with
    | none | some .null | some (.str _) =>
      let currentFlair := readUInt32 (item.get? "scoreboard_flair")
      if !overwrite ∧ currentFlair ≠ 0 then .ok none else .ok (some { row, accountId })
    | some _ => .error .invalidOperation
  | _, _ => .ok none

/-- The loop of `ReadEntries`, from a row on. -/
def readRows (overwrite : Bool) : Nat → List (String × Json) → Except ReadException (List FlairRow)
  | _, [] => .ok []
  | row, (accountIdText, node) :: players =>
    match readEntry overwrite row accountIdText node with
    | .error e => .error e
    | .ok entry => (readRows overwrite (row + 1) players).map (entry.toList ++ ·)

/-- `ReadEntries`. -/
def readEntries (root : Json) (overwrite : Bool) : Except ReadException (List FlairRow) :=
  match root.get? "players" with
  | some (.obj players) => readRows overwrite 0 players
  | _ => .error (.json "bot_info.json must contain a players object.")

/-! ## What the loop makes of the document -/

/-- `JsonObject`'s indexer as it is set: in place, or at the end. -/
def setMember (key : String) (value : Json) : List (String × Json) → List (String × Json)
  | [] => [(key, value)]
  | (k, v) :: members =>
    if k = key then (k, value) :: members else (k, v) :: setMember key value members

/-- `entry.Json["scoreboard_flair"] = flair`. -/
def setFlair (flair : UInt32) : Json → Json
  | .obj members => .obj (setMember "scoreboard_flair" (.unsigned flair.toUInt64) members)
  | item => item

/-- An entry's assignment, when it was made. -/
def writeFlair (players : List (String × Json)) (entry : FlairRow × FlairGenerator.BotEntry) :
    List (String × Json) :=
  match entry.2.scoreboardFlair with
  | none => players
  | some flair => players.modify entry.1.row fun (key, item) => (key, setFlair flair item)

/-- A root with these players. -/
def Json.withPlayers (root : Json) (f : List (String × Json) → List (String × Json)) : Json :=
  match root, root.get? "players" with
  | .obj members, some (.obj players) => .obj (setMember "players" (.obj (f players)) members)
  | _, _ => root

/-- `root`, once the loop has made the assignments of its entries. -/
def flairDocument (root : Json) (rows : List FlairRow) (entries : List FlairGenerator.BotEntry) :
    Json :=
  root.withPlayers fun players => (rows.zip entries).foldl writeFlair players

/-- A document as `nlohmann::json` iterates over it: its objects are sorted by key. -/
def Json.byKey (root : Json) : Json :=
  root.withPlayers (·.insertionSort fun a b => a.1 ≤ b.1)

/-! ## Saving -/

/-- The contents of `bot_info.json` and of the temporary file next to it; `none` is no file. -/
structure FlairFiles where
  path : Option Bytes
  temporaryPath : Option Bytes

/-- Where a `SaveJsonAsync` is: in `WriteAllTextAsync` with so many bytes written, before
`File.Move`, or in its `finally` with an exception under way. -/
inductive SavePhase
  | writing (written : Nat)
  | moving
  | cleaning

/-- What `Main` runs on: the document it has read, the entries it selected, and what
`JsonOptions` leave to the platform. -/
structure FlairRun where
  input : Json
  rows : List FlairRow
  options : JsonOptions

/-- `json` of `SaveJsonAsync`, in UTF-8 without a byte order mark. -/
def FlairRun.text (run : FlairRun) (root : Json) : Bytes :=
  Utf8.encode (run.options.toJsonString root ++ run.options.newLine.text)

/-- The tool: the loop with its client, the files, a save under way, and how `Main` came out,
once it is over: with its last save, or before the first query. -/
structure FlairTool where
  generator : FlairGenerator
  files : FlairFiles
  save : Option SavePhase := none
  exit : Option Bool := none

/-- The next step of a save writes so many bytes more; `ok` says that its call of the file
system does not throw. -/
inductive ToolEvent
  | generator (event : FlairEvent)
  | save (ok : Bool) (bytes : Nat)

namespace FlairTool

/-- The loop is at a save, or over, with the save of `Main` to come. -/
def savesNow (s : FlairTool) : Bool :=
  match s.generator.program.phase with
  | .saving _ => true
  | .finished => s.exit.isNone
  | _ => false

/-- A `SaveJsonAsync` is back, with or without an exception. -/
def saveReturned (s : FlairTool) (ok : Bool) : FlairTool :=
  { s with
    generator := s.generator.advance false ok
    save := none
    exit := match s.generator.program.phase with
      | .finished => some ok
      | _ => s.exit }

/-- The next step of a `SaveJsonAsync`. -/
def saveStep (run : FlairRun) (s : FlairTool) (ok : Bool) (bytes : Nat) : FlairTool :=
  let json := run.text (flairDocument run.input run.rows s.generator.program.entries)
  match s.save with
  | none =>
    -- the file is made, or emptied
    if ok then
      { s with files := { s.files with temporaryPath := some [] }, save := some (.writing 0) }
    else { s with save := some .cleaning }
  | some (.writing written) =>
    if ok then
      { s with
        files := { s.files with temporaryPath := some (json.take (written + bytes)) }
        save := some
          (if written + bytes < json.length then .writing (written + bytes) else .moving) }
    else { s with save := some .cleaning }
  | some .moving =>
    if ok then
      -- the temporary file is gone, so the `finally` finds nothing to delete
      { s with files := { path := s.files.temporaryPath, temporaryPath := none } }.saveReturned true
    else { s with save := some .cleaning }
  | some .cleaning =>
    let files := if ok then { s.files with temporaryPath := none } else s.files
    { s with files }.saveReturned false

def step (run : FlairRun) (s : FlairTool) (e : ToolEvent) : FlairTool :=
  if s.exit.isSome then s
  else
    match e with
    | .generator (.client event) => { s with generator := s.generator.step (.client event) }
    | .generator (.program canceled ok) =>
      if s.savesNow then s else { s with generator := s.generator.advance canceled ok }
    | .save ok bytes => if s.savesNow then saveStep run s ok bytes else s

/-- The entries are read. `Main` is over when there are none, and else the client is ready. -/
def start (run : FlairRun) (files : FlairFiles) : FlairTool where
  generator := .start (run.rows.map (·.accountId))
  files
  exit := if run.rows.isEmpty then some true else none

end FlairTool

end BotHider.Model
