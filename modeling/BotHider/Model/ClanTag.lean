import BotHider.Model.Permissions

/-!
# BotHider — the clan presenter

`ClanTagPresenter.cs`, for the entries of one slot. The slot's player is what
`GetPlayerFromSlot` returns; `Apply` is passed the same one. A `ClanCall` says which access to
the clan fields throws, and what the engine keeps of the values that are written.
-/

namespace BotHider.Model

/-- `ClanValue`. -/
structure ClanValue where
  tag : Utf16
  groupId : UInt32
  deriving DecidableEq

/-- What the presenter sees of a `CCSPlayerController`. -/
structure ClanPlayer where
  isValid : Bool
  entityHandle : UInt32
  userId : Option Int
  clan : Option Utf16
  clanId32bit : UInt32

/-- One run of `ClanPresentationState.Apply`: its accesses are the first read (0), the two
writes (1, 2), the two notifications (3, 4) and the second read (5). -/
structure ClanCall where
  fault : Option Nat := none
  keptTag : Utf16 → Utf16 := id
  keptGroup : UInt32 → UInt32 := id

/-- `ReadClan`. -/
def readClan (player : ClanPlayer) : ClanValue where
  tag := player.clan.getD []
  groupId := player.clanId32bit

/-- `WriteClan`: the player, and whether nothing threw. -/
def writeClan (player : ClanPlayer) (value : ClanValue) (call : ClanCall) : ClanPlayer × Bool :=
  if call.fault = some 1 then (player, false)
  else
    let tagged := { player with clan := some (call.keptTag value.tag) }
    if call.fault = some 2 then (tagged, false)
    else
      let written := { tagged with clanId32bit := call.keptGroup value.groupId }
      (written, call.fault ≠ some 3 ∧ call.fault ≠ some 4)

/-! ## One override -/

/-- `ClanPresentationState`. -/
structure ClanPresentationState where
  base : Option ClanValue := none
  pending : Bool := false

namespace ClanPresentationState

/-- The part of `Apply` behind the first read, which gave `current`: the state, the player, and
whether nothing threw. -/
def present (state : ClanPresentationState) (current target : ClanValue) (player : ClanPlayer)
    (call : ClanCall) : ClanPresentationState × ClanPlayer × Bool :=
  if current ≠ target ∨ state.pending then
    let pending := { state with pending := true }
    let written := writeClan player target call
    if !written.2 then (pending, written.1, false)
    else if call.fault = some 5 then (pending, written.1, false)
    else if readClan written.1 ≠ target then (pending, written.1, false)
    else ({ state with pending := false }, written.1, true)
  else (state, player, true)

/-- `Apply`, with a requested pair to override the fields and without one to restore them. -/
def apply (state : ClanPresentationState) (requested : Option ClanValue) (player : ClanPlayer)
    (call : ClanCall) : ClanPresentationState × ClanPlayer × Bool :=
  match requested, state.base with
  | none, none => (state, player, true)
  | none, some base =>
    if call.fault = some 0 then (state, player, false)
    else
      let restored := state.present (readClan player) base player call
      if restored.2.2 then ({ restored.1 with base := none }, restored.2) else restored
  | some value, base =>
    if call.fault = some 0 then (state, player, false)
    else
      { state with base := some (base.getD (readClan player)) }.present (readClan player) value
        player call

end ClanPresentationState

/-! ## The presenter -/

/-- The entries of a slot in `ClanTagPresenter`. -/
structure ClanTagPresenter where
  state : Option ClanPresentationState := none
  userId : Int := 0
  controllerHandle : UInt32 := 0

namespace ClanTagPresenter

/-- The check of `Restore` that the player is the one the entries are for. -/
def matchesPlayer (presenter : ClanTagPresenter) (player : ClanPlayer) : Bool :=
  player.isValid && player.entityHandle == presenter.controllerHandle &&
    player.userId == some presenter.userId

/-- `Restore`. -/
def restore (presenter : ClanTagPresenter) (player : Option ClanPlayer) (call : ClanCall) :
    ClanTagPresenter × Option ClanPlayer :=
  match presenter.state with
  | none => (presenter, player)
  | some state =>
    match player with
    | none => ({ presenter with state := none }, none)
    | some p =>
      if presenter.matchesPlayer p then
        let restored := state.apply none p call
        if restored.2.2 then ({ presenter with state := none }, some restored.2.1)
        else ({ presenter with state := some restored.1 }, some restored.2.1)
      else ({ presenter with state := none }, some p)

/-- The part of `Apply` that overrides the fields: `player` has the user ID. -/
def override (presenter : ClanTagPresenter) (player : ClanPlayer) (userId : Int)
    (clan : ClanValue) (call : ClanCall) : ClanTagPresenter × Option ClanPlayer :=
  let current := match presenter.state with
    | some state => (presenter, state)
    | none =>
      let state : ClanPresentationState := {}
      ({ state := some state, controllerHandle := player.entityHandle, userId }, state)
  let applied := current.2.apply (some clan) player call
  ({ current.1 with state := some applied.1 }, some applied.2.1)

/-- `Apply`. -/
def apply (presenter : ClanTagPresenter) (player : ClanPlayer) (clan : ClanValue)
    (call : ClanCall) : ClanTagPresenter × Option ClanPlayer :=
  match player.userId with
  | none => (presenter, some player)
  | some userId =>
    if clan.groupId = 0 ∨ clan.tag = [] then presenter.restore (some player) call
    else if presenter.state.isSome ∧ (presenter.controllerHandle ≠ player.entityHandle ∨
        presenter.userId ≠ userId) then
      let restored := presenter.restore (some player) call
      match restored.2 with
      | none => restored
      | some player => restored.1.override player userId clan call
    else presenter.override player userId clan call

end ClanTagPresenter

end BotHider.Model
