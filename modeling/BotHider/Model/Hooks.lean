import BotHider.Model.World

/-!
# BotHider — population transactions and scoped frames

`identity_hooks.cpp`: while the engine counts, moves or kicks bots, the managed
slots must look like bots to it. A population transaction is opened by the
outermost enabled frame and closed with it; the voter and script hooks capture
and restore per frame.

A POST callback pops the newest frame of its own hook. In a run in which hook calls
nest, that is the newest frame of all (`World.newest`).
-/

namespace BotHider.Model

/-! ## Frames -/

/-- The frame was pushed by this population hook. -/
def Frame.isPopulation (hook : PopulationHook) : Frame → Bool
  | .population h _ => h == hook
  | .scoped _ _ => false

/-- The frame was pushed by this scoped hook. -/
def Frame.isScoped (hook : ScopedHook) : Frame → Bool
  | .population _ _ => false
  | .scoped h _ => h == hook

/-- The frame opened, or nested in, a population transaction. -/
def Frame.enabled : Frame → Bool
  | .population _ enabled => enabled
  | .scoped _ _ => false

/-- The snapshot a frame holds. -/
def Frame.snapshot : Frame → Option ScopedBotIdentityRestore
  | .population _ _ => none
  | .scoped _ snapshot => snapshot

namespace IdentityHooks

/-- `frames.push_back(...)`. -/
def push (h : IdentityHooks) (frame : Frame) : IdentityHooks :=
  { h with frames := frame :: h.frames }

/-- `frames.back()` of the vector whose frames satisfy `own`. -/
def back (h : IdentityHooks) (own : Frame → Bool) : Option Frame := h.frames.find? own

/-- `frames.pop_back()` on that vector. -/
def pop (h : IdentityHooks) (own : Frame → Bool) : IdentityHooks :=
  { h with frames := h.frames.eraseP own }

end IdentityHooks

namespace World

variable (w : World)

/-! ## Transactions -/

/-- `BeginPopulationTransaction`. -/
def beginPopulationTransaction (redisguise : Bool) : World :=
  if w.hooks.populationTransactionDepth = 0 then
    let captured := capture w.manager w.engine
    { w with
      engine := captured.1
      hooks :=
        { w.hooks with
          populationTransactionDepth := 1
          populationTransactionRedisguise := redisguise
          populationIdentity := some captured.2 } }
  else
    { w with
      hooks :=
        { w.hooks with
          populationTransactionDepth := w.hooks.populationTransactionDepth + 1
          populationTransactionRedisguise :=
            w.hooks.populationTransactionRedisguise || redisguise } }

/-- The destructor of a `unique_ptr<ScopedBotIdentityRestore>`. -/
def destroy (snapshot : Option ScopedBotIdentityRestore) : World :=
  match snapshot with
  | none => w
  | some snapshots => w.withEngine (restore w.manager snapshots w.engine)

/-- `ApplyManagedDisguise(IsDisguiseEnabled())`. -/
def reapplyDisguise : World :=
  w.withEngine (applyManagedDisguise w.manager w.isDisguiseEnabled w.engine)

/-- `EndPopulationTransaction`. -/
def endPopulationTransaction (redisguise : Bool) : World :=
  if w.hooks.populationTransactionDepth = 0 then w
  else
    let applyDisguise := w.hooks.populationTransactionRedisguise || redisguise
    if w.hooks.populationTransactionDepth - 1 ≠ 0 then
      { w with
        hooks :=
          { w.hooks with
            populationTransactionDepth := w.hooks.populationTransactionDepth - 1
            populationTransactionRedisguise := applyDisguise } }
    else
      let closed : World :=
        { w with
          hooks :=
            { w.hooks with
              populationTransactionDepth := 0
              populationTransactionRedisguise := false
              populationIdentity := none } }
      let restored := closed.destroy w.hooks.populationIdentity
      if applyDisguise then restored.reapplyDisguise else restored

/-! ## Population frames -/

/-- `BeginPopulationFrame`. -/
def beginPopulationFrame (hook : PopulationHook) (enabled : Bool) : World :=
  let pushed : World := { w with hooks := w.hooks.push (.population hook enabled) }
  if enabled then pushed.beginPopulationTransaction true else pushed

/-- `EndPopulationFrame`, closing with the given `redisguise`. The vector is never
empty here: a POST callback runs only after its PRE. -/
def endPopulationFrame (hook : PopulationHook) (redisguise : Bool) : World :=
  match w.hooks.back (Frame.isPopulation hook) with
  | some (.population _ enabled) =>
    let popped : World := { w with hooks := w.hooks.pop (Frame.isPopulation hook) }
    if enabled then popped.endPopulationTransaction redisguise else popped
  | _ => w

/-- `QuotaPre`. -/
def quotaPre : World := w.beginPopulationFrame .quota w.isDisguiseEnabled

/-- `QuotaPost`. -/
def quotaPost : World := w.endPopulationFrame .quota true

/-- `HumanTeamPre`. -/
def humanTeamPre : World := w.beginPopulationFrame .humanTeam w.isDisguiseEnabled

/-- `HumanTeamPost`. -/
def humanTeamPost : World := w.endPopulationFrame .humanTeam true

/-- The slot's live controller is the one given. -/
def hasLiveController (controller : Nat) (slot : Slot) : Bool :=
  w.manager.isManaged slot &&
    (w.engine.controllerAt slot).any fun k => k.addr == controller && !k.beingDeleted

/-- `IsManagedBotController`. -/
def isManagedBotController (controller : Option Nat) : Bool :=
  match controller with
  | none => false
  | some controller =>
    match allSlots.find? (w.hasLiveController controller) with
    | none => false
    | some slot => !(w.engine.resolveClientBySlot slot).any Client.hltv

/-- `JoinTeamPre`. -/
def joinTeamPre (controller : Option Nat) : World :=
  w.beginPopulationFrame .joinTeam (w.isDisguiseEnabled && w.isManagedBotController controller)

/-- `JoinTeamPost`. -/
def joinTeamPost : World := w.endPopulationFrame .joinTeam true

/-- `EndMatchPre`; `pickNewTeams` says whether the rules' field can be read and is
set. -/
def endMatchPre (pickNewTeams : Bool) : World :=
  w.beginPopulationFrame .endMatch (w.isDisguiseEnabled && pickNewTeams)

/-- `EndMatchPost`. -/
def endMatchPost : World := w.endPopulationFrame .endMatch true

/-! ## Scoped frames -/

/-- A scoped hook's PRE: capture when disguise is enabled. -/
def beginScopedFrame (hook : ScopedHook) : World :=
  if w.isDisguiseEnabled then
    let captured := capture w.manager w.engine
    { w with
      engine := captured.1
      hooks := w.hooks.push (.scoped hook (some captured.2)) }
  else { w with hooks := w.hooks.push (.scoped hook none) }

/-- A scoped hook's POST: its newest snapshot is destroyed. -/
def endScopedFrame (hook : ScopedHook) : World :=
  match w.hooks.back (Frame.isScoped hook) with
  | some (.scoped _ snapshot) =>
    World.destroy { w with hooks := w.hooks.pop (Frame.isScoped hook) } snapshot
  | _ => w

/-- `VotersPre`. -/
def votersPre : World := w.beginScopedFrame .voters

/-- `VotersPost`. -/
def votersPost : World := w.endScopedFrame .voters

/-- `ScriptIsBotPre`. -/
def scriptIsBotPre : World := w.beginScopedFrame .scriptIsBot

/-- `ScriptIsBotPost`. -/
def scriptIsBotPost : World := w.endScopedFrame .scriptIsBot

end World

end BotHider.Model
