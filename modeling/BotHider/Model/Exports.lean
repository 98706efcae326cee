import BotHider.Model.Commands

/-!
# BotHider — the exported calls

`exports.cpp`. Each call returns the world and whether it reported success. Calls
come on the game thread. A call that allocates takes whether the allocation
succeeds: a failed one is caught, and comes before anything is written.
-/

namespace BotHider.Model

/-! ## Images -/

/-- `read32`: a big-endian word. -/
def read32 (p : Bytes) : Nat := (p.take 4).foldl (fun n b => n * 256 + b.toNat) 0

/-- The signature `HasPngStructure` looks for. -/
def pngSignature : Bytes := [0x89, 0x50, 0x4E, 0x47, 0x0D, 0x0A, 0x1A, 0x0A]

/-- The chunk loop of `HasPngStructure`, at `offset`. Every round moves the offset, so
as many rounds as there are bytes are enough. -/
def scanChunks (data : Bytes) : Nat → Nat → Bool → Bool
  | 0, _, _ => false
  | fuel + 1, offset, hasImageData =>
    if data.length - offset < 12 then false
    else
      let chunk := data.drop offset
      let size := read32 chunk
      let type := (chunk.drop 4).take 4
      if size > data.length - offset - 12 then false
      else if offset = pngSignature.length ∧
          (type ≠ ascii "IHDR" ∨ size ≠ 13 ∨ read32 (chunk.drop 8) = 0 ∨
            read32 (chunk.drop 12) = 0) then false
      else if offset ≠ pngSignature.length ∧ type = ascii "IHDR" then false
      else
        let hasImageData := hasImageData || (type = ascii "IDAT" ∧ size ≠ 0)
        let next := offset + (size + 12) % 2 ^ 32
        if type = ascii "IEND" then hasImageData && (size = 0 ∧ next = data.length)
        else scanChunks data fuel next hasImageData

/-- `HasPngStructure`; no data is a null pointer. -/
def hasPngStructure (data : Option Bytes) : Bool :=
  match data with
  | none => false
  | some data =>
    if data.take pngSignature.length ≠ pngSignature then false
    else scanChunks data data.length pngSignature.length false

namespace World

variable (w : World)

/-! ## Targets -/

/-- `Connected`. -/
def connected : Bool := w.manager.ready && w.manager.attached

/-- `ValidSlot`. -/
def validSlot (slot : Int) : Option Slot := if w.connected then slotOf slot else none

/-- `Target`: the slot, when it is in the lifetime the caller means. -/
def target (slot : Int) (incarnation : UInt64) : Option Slot :=
  (w.validSlot slot).filter fun index =>
    w.manager.isManaged index &&
      (incarnation != 0 && incarnation == w.manager.getIncarnation index)

/-- `CopyInput` into a buffer of `n` characters. -/
def copyInput (n : Nat) (text : Option Bytes) (length : Int) : Option Bytes :=
  match text with
  | none => none
  | some text =>
    if length < 0 ∨ length ≥ n ∨ (0 : UInt8) ∈ text.take length.toNat then none
    else some (text.take length.toNat)

/-! ## Calls -/

/-- `BH_Attach`. -/
def bhAttach : World × Bool :=
  let attached := w.manager.attach true
  (w.withManager attached.1, attached.2)

/-- `BH_Detach`. -/
def bhDetach : World := if w.manager.ready then w.withManager w.manager.detach else w

/-- `BH_GetSlot`, into a buffer of the right size. -/
def bhGetSlot (slot : Int) : Option SlotSnapshot :=
  (w.validSlot slot).map fun index => (w.manager.slots index).snapshot

/-- `BH_SetSteamId`. -/
def bhSetSteamId (slot : Int) (incarnation steamId : UInt64) (alloc : Bool) : World × Bool :=
  match w.target slot incarnation with
  | none => (w, false)
  | some index =>
    if steamId = 0 ∨ !alloc then (w, false) else w.applySteamIdCommand index steamId

/-- `BH_SetName`. -/
def bhSetName (call : SetNameCall) (slot : Int) (incarnation : UInt64) (name : Option Bytes)
    (length : Int) : World × Bool :=
  match w.target slot incarnation with
  | none => (w, false)
  | some index =>
    if length ≤ 0 then (w, false)
    else
      match copyInput kNameLen name length with
      | none => (w, false)
      | some buffer => w.applyPersonaNameCommand call index buffer

/-- `BH_SetCrosshair`. -/
def bhSetCrosshair (slot : Int) (incarnation : UInt64) (code : Option Bytes) (length : Int) :
    World × Bool :=
  match w.target slot incarnation with
  | none => (w, false)
  | some index =>
    match copyInput kCrosshairLen code length with
    | none => (w, false)
    | some buffer => (w.withManager (w.manager.updateCrosshair index buffer), true)

/-- `BH_SetFlair`. -/
def bhSetFlair (slot : Int) (incarnation : UInt64) (flair : UInt32) : World × Bool :=
  match w.target slot incarnation with
  | none => (w, false)
  | some index =>
    if flair > 65535 then (w, false)
    else (w.withManager (w.manager.updateScoreboardFlair index flair), true)

/-- `BH_SetAvatar`. -/
def bhSetAvatar (slot : Int) (incarnation : UInt64) (data : Option Bytes) (length : Int)
    (alloc : Bool) : World × Bool :=
  match w.target slot incarnation with
  | none => (w, false)
  | some index =>
    if length < 0 ∨ length > kAvatarMaxBytes then (w, false)
    else
      let data := data.map (List.take length.toNat)
      if length ≠ 0 ∧ (!hasPngStructure data ∨ !alloc) then (w, false)
      else (w.withManager (w.manager.setAvatarRequest index (data.getD [])), true)

/-- `BH_SetMode`: `0` is Player, `1` is Bot. -/
def bhSetMode (gate : ModeGate) (mode : Int) : World × Bool :=
  if !w.connected ∨ (mode ≠ 0 ∧ mode ≠ 1) then (w, false)
  else w.setIdentityMode gate (if mode = 1 then .bot else .player)

/-- `BH_SetNameSource`. -/
def bhSetNameSource (useBotInfo : Int) : World × Bool :=
  if !w.connected ∨ (useBotInfo ≠ 0 ∧ useBotInfo ≠ 1) then (w, false)
  else ({ w with plugin := { w.plugin with useBotInfoName := useBotInfo = 1 } }, true)

end World

end BotHider.Model
