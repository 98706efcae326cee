import BotHider.Model.Config
import BotHider.Model.System

/-!
# BotHider — loading and unloading

`HiderPlugin::Load` and `Unload` with everything they set up: the log, the schema, the
offsets, the detours of `identity_hooks.cpp`, the virtual hooks, the signature table and the
listener. A `Process` is all of it beside the `World` the events act on.

What a load is answered by the engine, the SDK helpers and the hook library is its
`LoadFindings`. `handed` and `released` record the hook IDs the library gave out and took
back, for the statements to speak about; no modelled function reads them.
-/

namespace BotHider.Model

open World

/-! ## Texts -/

/-- `snprintf(error, maxlen, ...)`. -/
def snprintf (maxlen : Nat) (text : Bytes) : Bytes := text.take (maxlen - 1)

/-- `if (!list.empty()) list += ", "; list += name;`. -/
def appendName (list name : Bytes) : Bytes :=
  (if list = [] then list else list ++ ascii ", ") ++ name

/-! ## Detours -/

/-- The functions `identity_hooks.cpp` detours. -/
inductive Detour
  | quota
  | voters
  | joinTeam
  | humanTeam
  | pack
  | endMatch
  | scriptIsBot
  deriving DecidableEq

/-- The name a detour's signature has in the gamedata. -/
def Detour.symbol : Detour → Bytes
  | .quota => ascii "CCSBotManager::MaintainBotQuota"
  | .voters => ascii "CBaseIssue::CountPotentialVoters"
  | .joinTeam => ascii "CCSPlayerController::HandleCommand_JoinTeam"
  | .humanTeam => ascii "MpHumanTeam_ApplyRestriction"
  | .pack => ascii "CNetworkGameServer::PackEntities"
  | .endMatch => ascii "CCSGameRules::EndMatchState"
  | .scriptIsBot => ascii "CSPlayerController::ScriptIsBot"

/-- The targets and the hooks on them. -/
structure Detours where
  target : Detour → Option Nat := fun _ => none
  active : Detour → Bool := fun _ => false
  pickNewTeamsOnResetOffset : Int := -1

/-- `InstallHook`; `installs` is what `Install` returns. -/
def Detours.installHook (installs : Detour → Bool) (d : Detours) (hook : Detour) : Detours :=
  match d.target hook with
  | none => d
  | some _ =>
    if installs hook then { d with active := Function.update d.active hook true }
    else
      { d with
        active := Function.update d.active hook false
        target := Function.update d.target hook none }

/-- The detours `InstallPrepared` installs whatever else there is. -/
def baseDetours : List Detour := [.quota, .voters, .joinTeam, .humanTeam, .pack, .endMatch]

/-- `InstallPrepared`; `utilRemove` says whether `UTIL_Remove` was found. -/
def Detours.installPrepared (installs : Detour → Bool) (utilRemove : Bool) (d : Detours) :
    Detours :=
  let d := baseDetours.foldl (Detours.installHook installs) d
  if d.active .pack && utilRemove then d.installHook installs .scriptIsBot
  else { d with target := Function.update d.target .scriptIsBot none }

/-! ## Virtual hooks -/

/-- The virtual hooks of `InstallVirtualHooks`, in its order. The one on
`StartChangeLevel` is the world's. -/
inductive VirtualHook
  | onClientConnected
  | clientPutInServer
  | clientDisconnect
  | gameFrame
  | dispatchConCommand
  deriving DecidableEq

def allVirtualHooks : List VirtualHook :=
  [.onClientConnected, .clientPutInServer, .clientDisconnect, .gameFrame, .dispatchConCommand]

/-- A `CheckedVirtual`: the hook IDs by the entry they are on, `_addr_hook_ids` and
`_hook_ids_addr` in one. -/
abbrev CheckedVirtual := List (Nat × Nat)

/-- `AddChecked`. The entry of a null object is `none`; the library hooks an entry once, and
`id` is the hook it sets up, `none` if it cannot. -/
def CheckedVirtual.addChecked (h : CheckedVirtual) (khook : Bool) (entry id : Option Nat) :
    CheckedVirtual × Bool :=
  match entry with
  | none => (h, false)
  | some entry =>
    if !khook then (h, false)
    else if (h.lookup entry).isSome then (h, true)
    else
      match id with
      | none => (h, false)
      | some id => ((entry, id) :: h, true)

/-! ## Findings -/

/-- The gamedata file, and what scanning the modules for its signatures finds. -/
structure Gamedata where
  offset : Bytes → Int
  utilRemoveBytes : Option Bytes
  findPattern : Option Nat
  resolveRelativeAddress : Nat → Option Nat
  resolveSig : Bytes → Option Nat

/-- What the outside answers one `Load`. A refusal carries its message; `schemaReady` and
`fieldsReady` are what `schema::Init` and `ResolveFields` return, `entry` and `hookId` the
virtual table entry of a hook and the ID it gets. -/
structure LoadFindings where
  interfaces : Option Bytes := none
  log : Option Bytes := none
  khook : Bool := true
  schemaReady : Bool := true
  fieldsReady : Bool := true
  baseEntityFlagsOffset : Int := 0
  fieldOffset : Bytes → Bytes → Int := fun _ _ => 0
  config : ConfigFile := .missing
  networkStringTables : Bool := true
  gamedataPath : Bytes := []
  platformName : Bytes := []
  gamedata : Option Gamedata
  serverCode : Bool := true
  engineCode : Bool := true
  installs : Detour → Bool := fun _ => true
  initTime : UInt64
  poolTime : UInt64
  document : Option Json
  entry : VirtualHook → Option Nat
  hookId : VirtualHook → Option Nat
  engine : Engine
  tables : Nat → StringTable := fun _ => []
  added : Bool := true
  late : Bool := false
  calls : Slot → SetNameCall := fun _ => {}
  times : Slot → UInt64 := fun _ => 0
  pass : PassEnv := { found := none, calls := fun _ => {}, now := 0 }
  shutdownTime : UInt64 := 0

/-! ## The process -/

/-- `bridge::Signature`. -/
structure Signature where
  name : CharBuf kNameLen
  address : Nat

/-- `bridge::kMaxSigs`. -/
def kMaxSigs : Nat := 8

/-- Everything a load sets up. -/
structure Process where
  world : World
  logOpen : Bool := false
  schemaReady : Bool := false
  baseEntityFlagsOffset : Int := -1
  botPawnHandleOffset : Int := -1
  offsets : Bytes → Int := fun _ => -1
  vtableSlotClientSetName : Int := -1
  utilRemove : Option Nat := none
  entitySystemGlobal : Option Nat := none
  detours : Detours := {}
  virtualHooks : VirtualHook → CheckedVirtual := fun _ => []
  signatures : List Signature := []
  listeners : Nat := 0
  handed : List Nat := []
  released : List Nat := []

namespace Process

variable (p : Process)

/-- The process when the server starts. -/
def start (now : UInt64) : Process where
  world :=
    { manager := { slots := fun _ => FakeClientManager.freshSlot now }
      botInfo := {}
      avatar :=
        { networkStringTables := false
          states := fun _ => {}
          lastAvatarTable := none
          tables := fun _ => [] }
      engine := Engine.empty }

/-- A call that only changes the world. -/
def withWorld (w : World) : Process := { p with world := w }

/-! ## Resolving -/

/-- `offsets::LoadFromSchema`. -/
def loadFromSchema (maxlen : Nat) (f : LoadFindings) : Process × Option Bytes :=
  let p :=
    { p with schemaReady := f.schemaReady, baseEntityFlagsOffset := f.baseEntityFlagsOffset }
  if !f.fieldsReady then
    (p, some (snprintf maxlen (ascii "CBaseEntity.m_fFlags unavailable: " ++
      ascii (toString f.baseEntityFlagsOffset))))
  else
    let pawnOff := f.fieldOffset (ascii "CBasePlayerController") (ascii "m_hPawn")
    let playerPawnOff := f.fieldOffset (ascii "CCSPlayerController") (ascii "m_hPlayerPawn")
    ({ p with botPawnHandleOffset :=
        if f.schemaReady then (if playerPawnOff ≥ 0 then playerPawnOff else pawnOff) else -1 },
      none)

/-- `CEntityIdentity::Size`. -/
def entityIdentitySize : Bytes := ascii "CEntityIdentity::Size"

/-- The offsets `LoadFromGamedata` requires, in its order. -/
def requiredOffsets : List Bytes :=
  [ascii "CServerSideClient::m_Name", ascii "CServerSideClient::m_nEntityIndex",
    ascii "CServerSideClient::m_NetChannel", ascii "CServerSideClient::m_nConnectionTypeFlags",
    ascii "CServerSideClient::m_bFakePlayer", ascii "CServerSideClient::m_UserID",
    ascii "CServerSideClient::m_SteamID", ascii "CServerSideClient::m_SteamIDMirror",
    ascii "CServerSideClient::m_bIsHLTV", ascii "CNetworkGameServerBase::m_Clients",
    ascii "CEntitySystem::m_EntityList", entityIdentitySize,
    ascii "CEntityIdentity::m_pInstance", ascii "CEntityIdentity::m_designerName"]

/-- A binding `LoadFromGamedata` does not accept. -/
def invalidOffset (g : Gamedata) (name : Bytes) : Bool :=
  g.offset name < 0 || (name == entityIdentitySize && g.offset name == 0)

/-- `offsets::LoadFromGamedata`. -/
def loadFromGamedata (maxlen : Nat) (f : LoadFindings) (g : Gamedata) : Process × Option Bytes :=
  let p :=
    { p with
      offsets := fun name => if name ∈ requiredOffsets then g.offset name else p.offsets name
      vtableSlotClientSetName := g.offset (ascii "CServerSideClient::SetName") }
  let invalid := (requiredOffsets.filter (invalidOffset g)).foldl appendName []
  if invalid ≠ [] then
    (p, some (snprintf maxlen (ascii "gamedata offsets invalid (" ++ f.platformName ++
      ascii "): " ++ invalid)))
  else (p, none)

/-- The loop of `ResolveUtilRemoveAndEntSys` over the signature's bytes, from offset `i`: where
the reference to the entity system starts. -/
def entitySystemReference : Bytes → Nat → Option Nat
  | a :: b :: c :: rest, i =>
    if rest.length < 4 then none
    else if (a == 0x48 && b == 0x8B && c == 0x0D) || (a == 0x48 && b == 0x8D && c == 0x05) then
      some i
    else entitySystemReference (b :: c :: rest) (i + 1)
  | _, _ => none

/-- `ResolveUtilRemoveAndEntSys`. -/
def resolveUtilRemoveAndEntSys (g : Gamedata) : Process :=
  let p := { p with utilRemove := none, entitySystemGlobal := none }
  match g.utilRemoveBytes, g.findPattern with
  | some bytes, some hit =>
    { p with
      utilRemove := some hit
      entitySystemGlobal :=
        (entitySystemReference bytes 0).bind fun i => g.resolveRelativeAddress (hit + i) }
  | _, _ => p

/-- The target a detour is prepared with: without code of the engine module `PackEntities` is
left alone, and so is `EndMatchState` without its function or its flag. -/
def preparedTarget (f : LoadFindings) (g : Gamedata) (hook : Detour) : Option Nat :=
  match hook with
  | .pack => if f.engineCode then g.resolveSig hook.symbol else p.detours.target hook
  | .endMatch =>
    match g.resolveSig hook.symbol with
    | none => p.detours.target hook
    | some target =>
      if f.fieldOffset (ascii "CCSGameRules") (ascii "m_bPickNewTeamsOnReset") < 0 then
        p.detours.target hook
      else some target
  | _ => g.resolveSig hook.symbol

/-- `PrepareAll`. -/
def prepareAll (f : LoadFindings) (g : Gamedata) : Process :=
  { p with detours :=
      { p.detours with
        target := p.preparedTarget f g
        pickNewTeamsOnResetOffset :=
          match g.resolveSig Detour.endMatch.symbol with
          | none => p.detours.pickNewTeamsOnResetOffset
          | some _ => f.fieldOffset (ascii "CCSGameRules") (ascii "m_bPickNewTeamsOnReset") } }

/-- `gamedata::Prepare`. -/
def prepare (maxlen : Nat) (f : LoadFindings) : Process × Option Bytes :=
  match f.gamedata with
  | none => (p, some (snprintf maxlen (ascii "gamedata load failed: " ++ f.gamedataPath)))
  | some g =>
    let loaded := p.loadFromGamedata maxlen f g
    match loaded.2 with
    | some error => (loaded.1, some error)
    | none =>
      if !f.serverCode then (loaded.1, some (snprintf maxlen (ascii "server code unavailable")))
      else ((loaded.1.resolveUtilRemoveAndEntSys g).prepareAll f g, none)

/-! ## Disguise -/

/-- The `dependencies` of `CanEnableDisguise`, in its order. -/
def dependencies : List (Bool × Bytes) :=
  [(p.detours.active .quota, Detour.quota.symbol),
    (p.detours.active .voters, Detour.voters.symbol),
    (p.detours.active .joinTeam, Detour.joinTeam.symbol),
    (p.detours.active .humanTeam, Detour.humanTeam.symbol),
    (p.detours.active .pack, Detour.pack.symbol),
    (p.detours.active .endMatch, Detour.endMatch.symbol),
    (p.utilRemove.isSome, ascii "UTIL_Remove"),
    (p.entitySystemGlobal.isSome, ascii "entity-system reference"),
    (0 ≤ p.botPawnHandleOffset, ascii "controller pawn handle")]

/-- The names of the dependencies that are not there. -/
def missingDependencies : List Bytes := (p.dependencies.filter (!·.1)).map (·.2)

/-- `CanEnableDisguise`: what it writes when it refuses. -/
def canEnableDisguise (maxlen : Nat) : Option Bytes :=
  let missing := p.missingDependencies.foldl appendName []
  if missing ≠ [] then some (snprintf maxlen (ascii "player mode unavailable: " ++ missing))
  else none

/-! ## Cleaning up -/

/-- `entity_access::Reset`. -/
def resetEntityAccess : Process :=
  { p with
    utilRemove := none
    entitySystemGlobal := none
    botPawnHandleOffset := -1
    world := p.world.withEngine
      { p.world.engine with entitySystem := false, utilRemove := false } }

/-- `avatar::SetStringTableContainer`. -/
def setStringTableContainer (container : Bool) : Process :=
  p.withWorld { p.world with avatar := { p.world.avatar with networkStringTables := container } }

/-- `schema::Reset`. -/
def resetSchema : Process := { p with schemaReady := false }

/-- `log::Close`. -/
def closeLog : Process := { p with logOpen := false }

/-- `g_hookDepth`: the calls inside detours. -/
def hookDepth : Nat := p.world.hooks.frames.countP fun frame => !frame.isPopulation .command

/-- `identity_hooks::Remove`. -/
def removeDetours : Process × Bool :=
  if p.hookDepth ≠ 0 then (p, false) else ({ p with detours := {} }, true)

/-- `RemoveAll` on every virtual hook of the list: the library takes back their IDs. -/
def removeVirtual (hooks : List VirtualHook) : Process :=
  hooks.foldl
    (fun p hook =>
      { p with
        virtualHooks := Function.update p.virtualHooks hook []
        released := p.released ++ (p.virtualHooks hook).map (·.2) }) p

/-- `RemoveVirtualHooks`. The change-level hook is removed with the others. -/
def removeVirtualHooks (khook : Bool) : Process × Bool :=
  if !khook then (p, false)
  else
    ((p.removeVirtual allVirtualHooks).withWorld
      { p.world with plugin := { p.world.plugin with startChangeLevelHook := [] } }, true)

/-! ## Installing -/

/-- `AddChecked` on one virtual hook. -/
def addVirtual (f : LoadFindings) (hook : VirtualHook) : Process × Bool :=
  let added := (p.virtualHooks hook).addChecked f.khook (f.entry hook) (f.hookId hook)
  ({ p with
      virtualHooks := Function.update p.virtualHooks hook added.1
      handed :=
        if added.1.length = (p.virtualHooks hook).length then p.handed
        else p.handed ++ (f.hookId hook).toList }, added.2)

/-- The condition of `InstallVirtualHooks`: the hooks are added until one fails. -/
def addVirtuals (f : LoadFindings) (p : Process) : List VirtualHook → Process × Bool
  | [] => (p, true)
  | hook :: hooks =>
    let added := p.addVirtual f hook
    if added.2 then addVirtuals f added.1 hooks else (added.1, false)

/-- `InstallVirtualHooks`. -/
def installVirtualHooks (f : LoadFindings) : Process × Bool :=
  let added := addVirtuals f p allVirtualHooks
  if added.2 then added else ((added.1.removeVirtualHooks f.khook).1, false)

/-- `PublishSignature`; a table that is full has no entry to write. -/
def publishSignature (name : Bytes) (address : Option Nat) : Process :=
  if p.signatures.length < kMaxSigs then
    { p with signatures :=
        p.signatures ++ [{ name := copyText _ (some name), address := address.getD 0 }] }
  else p

/-- The signatures `Load` publishes, in its order. -/
def published : List (Bytes × Option Nat) :=
  [(ascii "UTIL_Remove", p.utilRemove),
    (ascii "MaintainBotQuota", p.detours.target .quota),
    (ascii "CountPotentialVoters", p.detours.target .voters),
    (ascii "PackEntities", p.detours.target .pack),
    (ascii "HandleJoinTeam", p.detours.target .joinTeam),
    (ascii "HumanTeamRestriction", p.detours.target .humanTeam),
    (ascii "SameMapTeardown", p.detours.target .endMatch),
    (ascii "ScriptIsBot", p.detours.target .scriptIsBot)]

/-- `Manager().Init`. -/
def initManager (now : UInt64) : Process :=
  { p with
    signatures := []
    world := p.world.withManager (p.world.manager.init now) }

/-! ## Unload -/

/-- `Unload`: the process, and the message of a refusal. -/
def unload (maxlen : Nat) (khook : Bool) (pass : PassEnv) (now : UInt64) :
    Process × Option Bytes :=
  if p.world.plugin.loaded then (p, some (snprintf maxlen (ascii "Restart required")))
  else
    -- `World.unload` is the part of the world, and gives up where this gives up
    let detours := p.removeDetours
    if !detours.2 then
      (p.withWorld (p.world.unload pass false now),
        some (snprintf maxlen (ascii "KHook detour removal failed")))
    else
      let hooks := detours.1.removeVirtualHooks khook
      if !hooks.2 then
        (hooks.1.withWorld (hooks.1.world.unload pass false now),
          some (snprintf maxlen (ascii "KHook export unavailable")))
      else
        (((hooks.1.withWorld (hooks.1.world.unload pass true now)).setStringTableContainer
          false).resetEntityAccess.resetSchema.closeLog, none)

/-! ## Load -/

/-- What `Load` does once nothing can fail any more. -/
def finishLoad (f : LoadFindings) (botMode : Bool) : Process :=
  let w := p.world
  let w :=
    if w.engine.gameServer.isSome then
      let attached := w.attachGameServerHook f.added
      if attached.2 ∧ !botMode then
        { attached.1 with plugin := { attached.1.plugin with identityMode := .player } }
      else attached.1
    else { w with plugin := { w.plugin with startInPlayerMode := !botMode } }
  let w :=
    if f.late then
      allSlots.foldl (fun w slot => w.adoptExistingBot (f.calls slot) (f.times slot) slot) w
    else w
  { p with
    listeners := p.listeners + 1
    world := { w with plugin := { w.plugin with loaded := true } } }

/-- `Load` from the slot manager on. -/
def activate (maxlen : Nat) (f : LoadFindings) (botMode : Bool) : Process × Option Bytes :=
  let p := p.initManager f.initTime
  let p := p.published.foldl (fun p s => p.publishSignature s.1 s.2) p
  let p := p.withWorld
    { p.world with botInfo := (BotInfoStore.load f.document f.poolTime).1 }
  let installed := p.installVirtualHooks f
  if !installed.2 then
    ((installed.1.unload 256 f.khook f.pass f.shutdownTime).1,
      some (snprintf maxlen (ascii "KHook virtual hooks failed")))
  else (installed.1.finishLoad f botMode, none)

/-- The world as a load finds it: the engine and the tables are what they are by then. -/
def meet (f : LoadFindings) : Process :=
  p.withWorld
    { p.world with
      engine := { f.engine with
        entitySystem := p.world.engine.entitySystem, utilRemove := p.world.engine.utilRemove }
      avatar := { p.world.avatar with tables := f.tables }
      plugin := { p.world.plugin with identityMode := .bot, startInPlayerMode := false } }

/-- The settings are taken up, and the string tables. -/
def applySettings (f : LoadFindings) : Process :=
  let settings := Settings.load f.config
  let configured := p.withWorld (p.world.withManager (p.world.manager.configureFakePing
    settings.fakePingEnabled settings.fakePingMin settings.fakePingMax))
  configured.setStringTableContainer f.networkStringTables

/-- `InstallPrepared`, once the world has the pointers `Prepare` found. -/
def installPrepared (f : LoadFindings) : Process :=
  { p with
    detours := p.detours.installPrepared f.installs p.utilRemove.isSome
    world := p.world.withEngine
      { p.world.engine with
        entitySystem := p.entitySystemGlobal.isSome
        utilRemove := p.utilRemove.isSome } }

/-- `Load` from the gamedata on. -/
def prepareAndInstall (maxlen : Nat) (f : LoadFindings) : Process × Option Bytes :=
  let botMode := (Settings.load f.config).botMode
  let prepared := p.prepare maxlen f
  match prepared.2 with
  | some error =>
    ((prepared.1.setStringTableContainer false).resetEntityAccess.resetSchema.closeLog, some error)
  | none =>
    let installed := prepared.1.installPrepared f
    match (if botMode then none else installed.canEnableDisguise maxlen) with
    | some error =>
      ((installed.removeDetours.1.setStringTableContainer
        false).resetEntityAccess.resetSchema.closeLog, some error)
    | none => installed.activate maxlen f botMode

/-- `Load`: the process, and the message of a load that failed. -/
def load (maxlen : Nat) (f : LoadFindings) : Process × Option Bytes :=
  let p := p.meet f
  match f.interfaces with
  | some error => (p, some error)
  | none =>
    match f.log with
    | some error => (p, some error)
    | none =>
      let p := { p with logOpen := true }
      if !f.khook then (p.closeLog, some (snprintf maxlen (ascii "KHook export unavailable")))
      else
        let schema := p.loadFromSchema maxlen f
        match schema.2 with
        | some error => (schema.1.resetSchema.closeLog, some error)
        | none => (schema.1.applySettings f).prepareAndInstall maxlen f

/-! ## Events -/

end Process

/-- An event as it reaches a loaded plugin: `CanEnableDisguise` answers the gates, and the
engine does not write the plugin's own pointers. -/
def Event.reach (canEnable : Bool) (p : Process) : Event → Event
  | .levelInit gate => .levelInit { gate with canEnable := canEnable }
  | .bhSetMode gate mode => .bhSetMode { gate with canEnable := canEnable } mode
  | .engine e => .engine { e with
      entitySystem := p.entitySystemGlobal.isSome, utilRemove := p.utilRemove.isSome }
  | e => e

/-- What can happen to the process. -/
inductive ProcessEvent
  | load (maxlen : Nat) (f : LoadFindings)
  | unload (maxlen : Nat) (khook : Bool) (pass : PassEnv) (now : UInt64)
  | event (e : Event)

/-- The process after an event. No hook reaches a plugin that is not loaded. -/
def Process.step (p : Process) : ProcessEvent → Process
  | .load maxlen f => (p.load maxlen f).1
  | .unload maxlen khook pass now => (p.unload maxlen khook pass now).1
  | .event e =>
    if p.world.plugin.loaded then
      p.withWorld (p.world.step (e.reach (p.canEnableDisguise 512).isNone p))
    else p

end BotHider.Model
