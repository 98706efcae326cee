import BotHider.Model.Bridge

/-!
# BotHider — command permissions

`BotHiderImplPlugin.Permissions.cs`: the `commands` section of `config.json` and the check
every bot command makes. A .NET string is its UTF-16 code units.

Left to arguments: what reading the file gives, what `JsonDocument.Parse` makes of a text, and
which permissions `AdminManager` says a player has.
-/

namespace BotHider.Model

/-! ## Strings -/

/-- A .NET `string`: UTF-16 code units. -/
abbrev Utf16 := List UInt16

/-- A literal of ASCII characters. -/
def utf16 (s : String) : Utf16 := s.toList.map fun c => UInt16.ofNat c.toNat

/-- `string.IndexOf(char)`. -/
def indexOf (s : Utf16) (c : UInt16) : Int :=
  match s.idxOf? c with
  | none => -1
  | some index => index

/-- `char.IsWhiteSpace`. -/
def isWhiteSpace (c : UInt16) : Bool :=
  (0x09 ≤ c && c ≤ 0x0D) || c == 0x20 || c == 0x85 || c == 0xA0 || c == 0x1680 ||
    (0x2000 ≤ c && c ≤ 0x200A) || c == 0x2028 || c == 0x2029 || c == 0x202F || c == 0x205F ||
    c == 0x3000

/-- `'/'`. -/
def kSlash : UInt16 := 0x2F

/-- `'@'`. -/
def kAt : UInt16 := 0x40

/-! ## Documents -/

/-- The name of an object's member. An escape that is no UTF-16 throws when a comparison gets
as far as it. -/
inductive JsonName
  | text (name : Utf16)
  | broken (reached : Utf16 → Bool)

/-- `JsonElement`; a string with an escape that is no UTF-16 has no text. -/
inductive JsonElement
  | null
  | bool (b : Bool)
  | number
  | string (text : Option Utf16)
  | array (elements : List JsonElement)
  | object (members : List (JsonName × JsonElement))

/-- What loading the configuration throws. -/
inductive ConfigException
  | fileNotFound
  | directoryNotFound
  | io
  | unauthorizedAccess
  | json (message : String)
  | invalidOperation
  | other

/-- One comparison of `TryGetProperty`. -/
def JsonName.equals (name : Utf16) : JsonName → Except ConfigException Bool
  | .text t => .ok (t == name)
  | .broken reached => if reached name then .error .invalidOperation else .ok false

/-- The search of `TryGetProperty`. -/
def findProperty (name : Utf16) :
    List (JsonName × JsonElement) → Except ConfigException (Option JsonElement)
  | [] => .ok none
  | (key, value) :: rest =>
    match key.equals name with
    | .error e => .error e
    | .ok true => .ok (some value)
    | .ok false => findProperty name rest

/-- `TryGetProperty`: the last definition of a name counts. -/
def tryGetProperty (members : List (JsonName × JsonElement)) (name : String) :
    Except ConfigException (Option JsonElement) := findProperty (utf16 name) members.reverse

/-! ## Configuration -/

/-- The flag used when none is configured. -/
def kDefaultPermission : Utf16 := utf16 "@bothider/admin"

/-- `CommandPermissionsConfig`. -/
structure CommandPermissionsConfig where
  requirePermissions : Bool := false
  permission : Utf16 := kDefaultPermission
  deriving DecidableEq

/-- The `require_permissions` part of `Load`. -/
def readRequirePermissions (commands : List (JsonName × JsonElement)) :
    Except ConfigException Bool :=
  match tryGetProperty commands "require_permissions" with
  | .error e => .error e
  | .ok none => .ok false
  | .ok (some (.bool b)) => .ok b
  | .ok (some _) => .error (.json "Expected require_permissions boolean.")

/-- The check of a configured flag. -/
def rejectsFlag (permission : Utf16) : Bool :=
  let separator := indexOf permission kSlash
  permission.length < 4 || permission[0]? != some kAt || separator < 2 ||
    separator == (permission.length : Int) - 1 || permission.any isWhiteSpace

/-- The `permission` part of `Load`. -/
def readPermission (commands : List (JsonName × JsonElement)) : Except ConfigException Utf16 :=
  match tryGetProperty commands "permission" with
  | .error e => .error e
  | .ok none => .ok kDefaultPermission
  | .ok (some (.string none)) => .error .invalidOperation
  | .ok (some (.string (some permission))) =>
    if rejectsFlag permission then
      .error (.json "Expected CSS permission flag @domain/name.")
    else .ok permission
  | .ok (some _) => .error (.json "Expected permission string.")

/-- The part of `Load` that reads the `commands` object. -/
def readCommands (commands : List (JsonName × JsonElement)) :
    Except ConfigException CommandPermissionsConfig := do
  let requirePermissions ← readRequirePermissions commands
  let permission ← readPermission commands
  return { requirePermissions, permission }

/-- The part of `Load` that reads the document's root. -/
def readRoot : JsonElement → Except ConfigException CommandPermissionsConfig
  | .object members =>
    match tryGetProperty members "commands" with
    | .error e => .error e
    | .ok none => .ok {}
    | .ok (some (.object commands)) => readCommands commands
    | .ok (some _) => .error (.json "Expected commands object.")
  | _ => .error (.json "Expected config object.")

/-- `CommandPermissionsConfig.Load`; `read` is what `File.ReadAllText` gave. -/
def CommandPermissionsConfig.load (read : Except ConfigException Utf16)
    (parse : Utf16 → Except ConfigException JsonElement) :
    Except ConfigException CommandPermissionsConfig :=
  match read with
  | .error .fileNotFound => .ok {}
  | .error .directoryNotFound => .ok {}
  | .error e => .error e
  | .ok text => parse text >>= readRoot

/-- The exceptions `LoadCommandPermissions` catches: `IOException` with those derived from it,
`UnauthorizedAccessException` and `JsonException`. -/
def ConfigException.caught : ConfigException → Bool
  | .fileNotFound | .directoryNotFound | .io | .unauthorizedAccess | .json _ => true
  | .invalidOperation | .other => false

/-- `LoadCommandPermissions`: `_commandPermissions` after it, and the exception that leaves
it. The restricted default is set first. -/
def loadCommandPermissions (read : Except ConfigException Utf16)
    (parse : Utf16 → Except ConfigException JsonElement) :
    CommandPermissionsConfig × Option ConfigException :=
  match CommandPermissionsConfig.load read parse with
  | .ok config => (config, none)
  | .error e => ({ requirePermissions := true }, if e.caught then none else some e)

/-! ## Commands -/

/-- What the check asks about a connected player; `hasPermissions` is the answer of
`AdminManager.PlayerHasPermissions`. -/
structure CommandPlayer where
  isValid : Bool
  authorizedSteamId : Option UInt64
  hasPermissions : Utf16 → Bool

/-- `CanExecuteCommand`, and the reply it sends; no player is the console or RCON. -/
def canExecuteCommand (permissions : CommandPermissionsConfig) (player : Option CommandPlayer) :
    Bool × Option Utf16 :=
  match player with
  | none => (true, none)
  | some player =>
    if !permissions.requirePermissions then (true, none)
    else if player.isValid && (player.authorizedSteamId.isSome &&
        (player.hasPermissions (utf16 "@css/root") || (player.hasPermissions (utf16 "@css/admin") ||
          player.hasPermissions permissions.permission))) then (true, none)
    else
      (false, some (utf16 "[BotHider] permission required: " ++ permissions.permission ++
        utf16 ", @css/root or @css/admin"))

end BotHider.Model
