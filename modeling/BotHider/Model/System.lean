import BotHider.Lib.Run
import BotHider.Model.BridgeClient

/-!
# BotHider — the system and its runs

An `Event` is one thing that happens on the game thread: the engine changes its
own memory, one of its calls enters a hook of the plugin, or the managed client
does something. `World.step` is what the world is afterwards, and a run is a list
of events from a loaded plugin (`World.load`).

Engine calls that call back into the plugin are split where they do, so a run
covers every nesting: a hooked call is its PRE event, whatever happens inside,
and its POST event, and a frame's kicks are single events. `gameFrame` lists the
events of one `HookGameFramePost`.
-/

namespace BotHider.Model

open World

/-- What can happen. -/
inductive Event
  -- the engine on its own
  | engine (e : Engine)
  | tables (tables : Nat → StringTable)
  -- clients
  | clientConnected (slot : Int) (name networkId : Option Bytes) (fakePlayer : Bool)
      (now : UInt64)
  | clientPutInServer (call : SetNameCall) (slot : Int) (name : Option Bytes)
  | clientDisconnect (slot : Int) (targeted : Bool)
  -- hooked engine calls
  | quotaPre
  | quotaPost
  | humanTeamPre
  | humanTeamPost
  | joinTeamPre (controller : Option Nat)
  | joinTeamPost
  | endMatchPre (pickNewTeams : Bool)
  | endMatchPost
  | votersPre
  | votersPost
  | scriptIsBotPre
  | scriptIsBotPost
  | dispatchPre (command : ConCommand) (botKick : Bool)
  | dispatchPost
  -- frames
  | drainBegin (botKick : Bool)
  | drainKick (fits : Bool)
  | drainControllerRemovals
  | releaseHltv (call : SetNameCall) (slot : Slot)
  | tick
  | processOverrides (env : PassEnv)
  -- levels
  | startChangeLevel (env : PassEnv)
  | levelInit (gate : ModeGate)
  | levelShutdown (env : PassEnv)
  | unload (env : PassEnv) (removed : Bool) (now : UInt64)
  -- exported calls
  | bhAttach
  | bhDetach
  | bhSetSteamId (slot : Int) (incarnation steamId : UInt64) (alloc : Bool)
  | bhSetName (call : SetNameCall) (slot : Int) (incarnation : UInt64) (name : Option Bytes)
      (length : Int)
  | bhSetCrosshair (slot : Int) (incarnation : UInt64) (code : Option Bytes) (length : Int)
  | bhSetFlair (slot : Int) (incarnation : UInt64) (flair : UInt32)
  | bhSetAvatar (slot : Int) (incarnation : UInt64) (data : Option Bytes) (length : Int)
      (alloc : Bool)
  | bhSetMode (gate : ModeGate) (mode : Int)
  | bhSetNameSource (useBotInfo : Int)
  -- the managed client
  | loadImpl (found : Bool)
  | unloadImpl
  | resetAppliedState
  | resetAppliedSlot (slot : Slot)
  | applyManagedSlot (slot : Slot) (faults : SlotFaults)
  | runNextFrame (fault : Option Nat)
  | setBotSteamId (slot : Int) (steamId64 : UInt64) (alloc : Bool)
  | setPersonaName (call : SetNameCall) (slot : Int) (normalized : Bytes)
  | setCrosshairCode (slot : Int) (code : Option Bytes)
  | setScoreboardFlair (slot : Int) (itemDefIndex : UInt32)
  | trySetBotAvatar (slot : Int) (pngPath : AvatarPath)
  | completeAvatarRead (slot : Slot) (file : Option Bytes)
  | finishAvatarReads (alloc : Slot → Bool)

/-- The world after an event. -/
def World.step (w : World) : Event → World
  | .engine e => w.withEngine e
  | .tables tables => { w with avatar := { w.avatar with tables := tables } }
  | .clientConnected slot name networkId fakePlayer now =>
    w.hookOnClientConnectedPost slot name networkId fakePlayer now
  | .clientPutInServer call slot name => w.hookClientPutInServerPost call slot name
  | .clientDisconnect slot targeted => w.hookClientDisconnectPre slot targeted
  | .quotaPre => w.quotaPre
  | .quotaPost => w.quotaPost
  | .humanTeamPre => w.humanTeamPre
  | .humanTeamPost => w.humanTeamPost
  | .joinTeamPre controller => w.joinTeamPre controller
  | .joinTeamPost => w.joinTeamPost
  | .endMatchPre pickNewTeams => w.endMatchPre pickNewTeams
  | .endMatchPost => w.endMatchPost
  | .votersPre => w.votersPre
  | .votersPost => w.votersPost
  | .scriptIsBotPre => w.scriptIsBotPre
  | .scriptIsBotPost => w.scriptIsBotPost
  | .dispatchPre command botKick => (w.hookDispatchConCommandPre command botKick).1
  | .dispatchPost => w.hookDispatchConCommandPost
  | .drainBegin botKick => w.drainBegin botKick
  | .drainKick fits => w.drainKick fits
  | .drainControllerRemovals => w.drainPendingControllerRemovals
  | .releaseHltv call slot => (w.releaseManagedHltvSlot call slot).1
  | .tick => w.withManager w.manager.onTick
  | .processOverrides env => w.processOverrides env
  | .startChangeLevel env => w.hookStartChangeLevelPre env
  | .levelInit gate => w.onLevelInit gate
  | .levelShutdown env => w.onLevelShutdown env
  | .unload env removed now => w.unload env removed now
  | .bhAttach => w.bhAttach.1
  | .bhDetach => w.bhDetach
  | .bhSetSteamId slot incarnation steamId alloc =>
    (w.bhSetSteamId slot incarnation steamId alloc).1
  | .bhSetName call slot incarnation name length =>
    (w.bhSetName call slot incarnation name length).1
  | .bhSetCrosshair slot incarnation code length =>
    (w.bhSetCrosshair slot incarnation code length).1
  | .bhSetFlair slot incarnation flair => (w.bhSetFlair slot incarnation flair).1
  | .bhSetAvatar slot incarnation data length alloc =>
    (w.bhSetAvatar slot incarnation data length alloc).1
  | .bhSetMode gate mode => (w.bhSetMode gate mode).1
  | .bhSetNameSource useBotInfo => (w.bhSetNameSource useBotInfo).1
  | .loadImpl found => w.loadImpl found
  | .unloadImpl => w.unloadImpl
  | .resetAppliedState => w.resetAppliedState
  | .resetAppliedSlot slot => w.resetAppliedSlot slot 0
  | .applyManagedSlot slot faults => w.applyManagedSlot slot faults
  | .runNextFrame fault => w.runNextFrame fault
  | .setBotSteamId slot steamId64 alloc => (w.setBotSteamId slot steamId64 alloc).1
  | .setPersonaName call slot normalized => (w.setPersonaName call slot normalized).1
  | .setCrosshairCode slot code => (w.setCrosshairCode slot code).1
  | .setScoreboardFlair slot itemDefIndex => (w.setScoreboardFlair slot itemDefIndex).1
  | .trySetBotAvatar slot pngPath => (w.trySetBotAvatar slot pngPath).1
  | .completeAvatarRead slot file => w.completeAvatarRead slot file
  | .finishAvatarReads alloc => w.finishAvatarReads alloc

/-- The events of one `HookGameFramePost`, with `kicks` naming the queued kicks whose
argument lists fit. -/
def gameFrame (simulating botKick : Bool) (kicks : List Bool) (call : SetNameCall)
    (env : PassEnv) : List Event :=
  [.drainBegin botKick] ++ kicks.map .drainKick ++
    if simulating then
      [.drainControllerRemovals] ++ allSlots.map (.releaseHltv call) ++
        [.tick, .processOverrides env]
    else []

/-! ## Loading -/

/-- What a load finds: the pool's document, the settings, the clocks, the engine, and,
for a late load, what the engine answers for the bots already there. -/
structure LoadEnv where
  document : Option Json
  botMode : Bool
  fakePingEnabled : Bool := true
  fakePingMinimum : Int := 20
  fakePingMaximum : Int := 90
  initTime : UInt64
  poolTime : UInt64
  engine : Engine
  networkStringTables : Bool := true
  tables : Nat → StringTable := fun _ => []
  added : Bool := true
  late : Bool := false
  calls : Slot → SetNameCall := fun _ => {}
  times : Slot → UInt64 := fun _ => 0

/-- The world `Load` has built when it comes to existing bots. -/
def World.loading (env : LoadEnv) : World :=
  let constructed : FakeClientManager := { slots := fun _ => FakeClientManager.freshSlot env.initTime }
  let w : World :=
    { manager := (constructed.configureFakePing env.fakePingEnabled env.fakePingMinimum
        env.fakePingMaximum).init env.initTime
      botInfo := (BotInfoStore.load env.document env.poolTime).1
      avatar :=
        { networkStringTables := env.networkStringTables
          states := fun _ => {}
          lastAvatarTable := none
          tables := env.tables }
      engine := env.engine }
  if env.engine.gameServer.isSome then
    let attached := w.attachGameServerHook env.added
    if attached.2 ∧ !env.botMode then
      { attached.1 with plugin := { attached.1.plugin with identityMode := .player } }
    else attached.1
  else { w with plugin := { w.plugin with startInPlayerMode := !env.botMode } }

/-- `AdoptExistingBots`, on a slot of a late load. -/
def World.adoptExisting (env : LoadEnv) (w : World) (slot : Slot) : World :=
  w.adoptExistingBot (env.calls slot) (env.times slot) slot

/-- A successful `Load`. -/
def World.load (env : LoadEnv) : World :=
  let w := World.loading env
  let w := if env.late then allSlots.foldl (World.adoptExisting env) w else w
  { w with plugin := { w.plugin with loaded := true } }

/-! ## A small server

Two bots on a server and two identities to give them, for the concrete runs of the
modules that follow. -/

/-- A bot as the engine creates it: pointer `10 + i` and user ID `i`, with entity `i`. -/
def botClient (i : Nat) : Client where
  addr := 10 + i
  name := some (ascii "Bob")
  entityIndex := i
  connectionFlags := 0x08
  fakePlayer := 1
  userId := UInt16.ofNat i
  steamId := 0
  steamIdMirror := 0
  hltv := false

/-- The bot's controller as the engine creates it. -/
def botController (i : Nat) : Entity where
  addr := 100 + i
  handle := UInt32.ofNat i
  className := "cs_player_controller"
  beingDeleted := false
  flags := kEntityFlagFakeClient

/-- Two bots, in slots `0` and `1`. -/
def twoBots : Engine where
  gameServer := some { addr := 1, clients := [some (botClient 1), some (botClient 2)] }
  entitySystem := true
  utilRemove := true
  entities := fun i => if i = 1 ∨ i = 2 then some (botController i) else none
  players := fun _ => none

/-- A pool of two identities. -/
def twoIdentities : Json :=
  .obj [("players", .obj
    [("1001", .obj [("player_name", .str (ascii "alpha"))]),
      ("1002", .obj [("player_name", .str (ascii "beta"))])])]

/-- A plugin loaded in Player mode before the bots connect. -/
def smallServer : LoadEnv where
  document := some twoIdentities
  botMode := false
  initTime := 5
  poolTime := 7
  engine := twoBots

/-- The bot in a slot connects. -/
def botConnects (slot : Int) : Event := .clientConnected slot (some (ascii "Bob")) none true 3

end BotHider.Model
