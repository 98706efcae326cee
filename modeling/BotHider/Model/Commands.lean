import BotHider.Model.ClientHooks

/-!
# BotHider — console commands, modes, levels and frames

`command_hooks.cpp` and the level handlers of `plugin.cpp`. Dispatching
`bot_kick` calls back into the plugin's hooks, so the loop of
`DrainPendingBotKicks` is two operations: `drainBegin` swaps the queue out and
`drainKick` looks at one kick. Whatever the dispatched command makes the engine
do comes between two of them.
-/

namespace BotHider.Model

/-- The bytes `isspace` accepts. -/
def isSpace (b : UInt8) : Bool := b == 0x20 || (0x09 ≤ b && b ≤ 0x0D)

/-- The decimal digits a text starts with, as a number, and what follows them; `none`
when there is no digit. -/
def leadingDigits (text : Bytes) : Option (Nat × Bytes) :=
  let isDigit : UInt8 → Bool := fun b => 0x30 ≤ b && b ≤ 0x39
  let digits := text.takeWhile isDigit
  if digits = [] then none
  else some (digits.foldl (fun n b => n * 10 + (b.toNat - 0x30)) 0, text.dropWhile isDigit)

/-- `std::strtol(value, &end, 10)`: the value and what `end` points at; `none` when
nothing was converted. The values the caller accepts do not saturate. -/
def strtol (value : Bytes) : Option (Int × Bytes) :=
  match value.dropWhile isSpace with
  | 0x2D :: text => (leadingDigits text).map fun p => (-(p.1 : Int), p.2)
  | 0x2B :: text => (leadingDigits text).map fun p => ((p.1 : Int), p.2)
  | text => (leadingDigits text).map fun p => ((p.1 : Int), p.2)

/-- The user ID a `kickid` argument names. -/
def parseUserId (value : Bytes) : Option UInt16 :=
  match strtol (cstr value) with
  | some (userId, []) =>
    if userId < 0 ∨ userId > 65535 then none else some (UInt16.ofNat userId.toNat)
  | _ => none

/-- `IsBotAddCommand`. -/
def isBotAddCommand (name : String) : Bool :=
  name == "bot_add" || name == "bot_add_t" || name == "bot_add_ct"

/-- `IsKickCommand`. -/
def isKickCommand (name : String) : Bool :=
  name == "kickid" || name == "kick" || name == "bot_kick" || name == "banid"

namespace World

variable (w : World)

/-! ## Kicks -/

/-- `FindManagedSlotByPersonaName`. -/
def findManagedSlotByPersonaName (name : Bytes) : Option Slot :=
  if cstr name = [] then none
  else allSlots.find? fun slot =>
    w.manager.isManaged slot && w.manager.getSlotName slot == cstr name

/-- `FindManagedSlotByUserId`. -/
def findManagedSlotByUserId (value : Bytes) : Option Slot :=
  match parseUserId value with
  | none => none
  | some userId => allSlots.find? fun slot =>
    w.manager.isManaged slot &&
      (w.engine.resolveClientBySlot slot).any fun c => c.userId == userId

/-- `QueueManagedBotKick`; `botKick` says whether the engine has the command. -/
def queueManagedBotKick (slot : Option Slot) (botKick : Bool) : World × Bool :=
  match slot with
  | none => (w, false)
  | some slot =>
    if !w.manager.isManaged slot || !botKick then (w, false)
    else
      match w.engine.resolveClientBySlot slot with
      | none => (w, false)
      | some client =>
        if client.hltv ∨ w.manager.getSlotName slot = [] then (w, false)
        else
          ({ w with
              identity :=
                { w.identity with
                  pendingBotKicks := w.identity.pendingBotKicks ++
                    [{ slot
                       client := client.addr
                       userId := client.userId
                       incarnation := w.manager.getIncarnation slot }] } }, true)

/-- The start of `DrainPendingBotKicks`. -/
def drainBegin (botKick : Bool) : World :=
  if w.identity.pendingBotKicks.isEmpty then w
  else
    { w with
      identity := { w.identity with pendingBotKicks := [] }
      draining := if botKick then w.identity.pendingBotKicks else [] }

/-- The checks a kick has to pass to be dispatched. -/
def kickValid (kick : PendingBotKick) : Bool :=
  w.manager.isManaged kick.slot &&
    (match w.engine.resolveClientBySlot kick.slot with
      | none => false
      | some client =>
        client.addr == kick.client && (!client.hltv && client.userId == kick.userId)) &&
    (kick.incarnation == 0 || w.manager.getIncarnation kick.slot == kick.incarnation)

/-- One round of the loop of `DrainPendingBotKicks`; `fits` says whether the argument
list could be built. -/
def drainKick (fits : Bool) : World :=
  match w.draining with
  | [] => w
  | kick :: rest =>
    let w := { w with draining := rest }
    let name := w.manager.getSlotName kick.slot
    if !w.kickValid kick ∨ name = [] ∨ !fits then w
    else { w with journal := { w.journal with dispatched := ⟨kick, name⟩ :: w.journal.dispatched } }

/-! ## Console commands -/

/-- A console command as the hook sees it: `name` is `none` for an invalid reference,
and `args` are the arguments after it. -/
structure ConCommand where
  name : Option String
  args : List Bytes := []

/-- The kick the command queues, if it is one the plugin takes over. -/
def supersede (command : String) (args : List Bytes) (botKick : Bool) : World × Bool :=
  let target := args.headD []
  if command = "kick" then w.queueManagedBotKick (w.findManagedSlotByPersonaName target) botKick
  else if command = "kickid" then
    w.queueManagedBotKick (w.findManagedSlotByUserId target) botKick
  else (w, false)

/-- `HookDispatchConCommandPre`: the world, and whether the command is superseded. The
frame is pushed first; it is enabled when a transaction begins. -/
def hookDispatchConCommandPre (command : ConCommand) (botKick : Bool) : World × Bool :=
  match command.name with
  | none => (w.beginPopulationFrame .command false, false)
  | some name =>
    if isBotAddCommand name then
      (w.beginPopulationFrame .command w.isDisguiseEnabled, false)
    else
      let superseded := w.supersede name command.args botKick
      if superseded.2 then (superseded.1.beginPopulationFrame .command false, true)
      else
        (w.beginPopulationFrame .command (isKickCommand name && w.isDisguiseEnabled), false)

/-- `HookDispatchConCommandPost`. -/
def hookDispatchConCommandPost : World := w.endPopulationFrame .command w.isDisguiseEnabled

/-! ## Modes -/

/-- `AttachGameServerHook`; `added` is what adding the hook returns. -/
def attachGameServerHook (added : Bool) : World × Bool :=
  let gameServer := w.engine.gameServer.map GameServer.addr
  if gameServer = w.plugin.hookedGameServer then (w, gameServer.isSome)
  else
    let removed := match w.plugin.hookedGameServer with
      | none => w.plugin.startChangeLevelHook
      | some old => w.plugin.startChangeLevelHook.filter (· ≠ old)
    let unhooked : World :=
      { w with plugin := { w.plugin with
          hookedGameServer := none
          startChangeLevelHook := removed } }
    match gameServer with
    | none => (unhooked, false)
    | some addr =>
      if !added then (unhooked, false)
      else
        ({ unhooked with plugin := { unhooked.plugin with
            hookedGameServer := some addr
            startChangeLevelHook := addr :: removed } }, true)

/-- The end of `SetIdentityMode`, once the mode may be entered. -/
def commitIdentityMode (mode : IdentityMode) : World :=
  let w := { w with plugin := { w.plugin with startInPlayerMode := false } }
  if w.plugin.identityMode = mode then w
  else World.reapplyDisguise { w with plugin := { w.plugin with identityMode := mode } }

/-- What entering a mode depends on outside the plugin's state: `CanEnableDisguise`, and
what adding the change-level hook returns. -/
structure ModeGate where
  canEnable : Bool := true
  added : Bool := true

/-- `SetIdentityMode`. -/
def setIdentityMode (gate : ModeGate) (mode : IdentityMode) : World × Bool :=
  match mode with
  | .bot => (w.commitIdentityMode .bot, true)
  | .player =>
    if !gate.canEnable then (w, false)
    else
      let attached := w.attachGameServerHook gate.added
      if !attached.2 then
        (if attached.1.isDisguiseEnabled then attached.1.commitIdentityMode .bot else attached.1,
          false)
      else (attached.1.commitIdentityMode .player, true)

/-! ## Avatar passes -/

/-- What one `ProcessOverrides` finds outside the plugin's state. -/
structure PassEnv where
  found : Option Nat
  calls : Slot → TableCalls
  now : Nat

/-- `avatar::ProcessOverrides`. -/
def processOverrides (env : PassEnv) : World :=
  let processed := w.avatar.processOverrides w.manager env.found env.calls env.now
  { w with manager := processed.1, avatar := processed.2 }

/-- `avatar::ResetRuntime`. -/
def resetRuntime : World :=
  let reset := w.avatar.resetRuntime w.manager
  { w with manager := reset.1, avatar := reset.2 }

/-! ## Levels -/

/-- `HookStartChangeLevelPre`. -/
def hookStartChangeLevelPre (env : PassEnv) : World :=
  ((w.withEngine (restoreManagedClients w.manager w.engine)).releaseAll).processOverrides env

/-- `OnLevelInit`. -/
def onLevelInit (gate : ModeGate) : World :=
  let reset := World.resetRuntime
    { w with identity := { w.identity with pendingControllerRemovals := [] } }
  let attached := reset.attachGameServerHook gate.added
  if !attached.2 then (attached.1.setIdentityMode gate .bot).1
  else if attached.1.plugin.startInPlayerMode then (attached.1.setIdentityMode gate .player).1
  else attached.1

/-- `OnLevelShutdown`. -/
def onLevelShutdown (env : PassEnv) : World :=
  let w := ((w.releaseAll).processOverrides env).resetRuntime
  let removed := match w.plugin.hookedGameServer with
    | none => w.plugin.startChangeLevelHook
    | some old => w.plugin.startChangeLevelHook.filter (· ≠ old)
  let disguised := w.isDisguiseEnabled
  { w with plugin := { w.plugin with
      hookedGameServer := none
      startChangeLevelHook := removed
      startInPlayerMode := w.plugin.startInPlayerMode || disguised
      identityMode := if disguised then .bot else w.plugin.identityMode } }

/-- `Unload`; `removed` says whether the hooks could be removed, and `now` seeds the
records `Shutdown` builds. A loaded plugin refuses. -/
def unload (env : PassEnv) (removed : Bool) (now : UInt64) : World :=
  if w.plugin.loaded then w
  else if !removed then w.withManager { w.manager with ready := false }
  else
    let w := { w with
      manager := { w.manager with ready := false }
      plugin := { w.plugin with hookedGameServer := none, startChangeLevelHook := [] } }
    let w := (w.withEngine (restoreManagedClients w.manager w.engine)).releaseAll
    let w := (w.processOverrides env).resetRuntime
    { w with
      manager := w.manager.shutdown now
      avatar := { w.avatar with networkStringTables := false }
      engine := { w.engine with entitySystem := false, utilRemove := false } }

/-! ## Commands of the bridge -/

/-- `ApplySteamIdCommand`. -/
def applySteamIdCommand (slot : Slot) (steamId : UInt64) : World × Bool :=
  match w.engine.resolveClientBySlot slot with
  | none => (w, false)
  | some _ =>
    if checkSteamIdAvailability w.manager w.engine slot steamId ≠ .available then (w, false)
    else
      let disguised := if w.isDisguiseEnabled then w.disguiseClient slot false else w
      let written := disguised.writeSteamId slot steamId
      (written.withManager (written.manager.setSyntheticSid slot steamId), true)

/-- `ApplyPersonaNameCommand`. -/
def applyPersonaNameCommand (call : SetNameCall) (slot : Slot) (name : Bytes) : World × Bool :=
  match w.engine.resolveClientBySlot slot with
  | none => (w, false)
  | some _ => w.applyClientName call slot name

end World

end BotHider.Model
