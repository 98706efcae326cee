import BotHider.Lib.Lend
import BotHider.Lib.Run
import BotHider.Model.Commands

/-!
# BotHider — `FL_BOT` while entities are packed

`PackPre` and `PackPost` of `identity_hooks.cpp`, the overrides of `identity_runtime.cpp`
they call and `ResolveClientPawn`. A pawn is an entity whose handle its player's
controller holds. `Disguise/Packing.lean` shows that the two loops take `FL_BOT` off pawns
and give it back (`Lib/Lend.lean`).
-/

namespace BotHider.Model

/-! ## Pawns -/

/-- `offsets::kEntityFlagBot`, bit 4. -/
def kEntityFlagBot : BitVec 32 := 0x10#32

namespace Entity

/-- `FL_BOT` is set. -/
def hasBot (k : Entity) : Bool := k.flags &&& kEntityFlagBot ≠ 0

/-- The entity without `FL_BOT`. -/
def clearBot (k : Entity) : Entity := { k with flags := k.flags &&& ~~~kEntityFlagBot }

/-- The entity with `FL_BOT`. -/
def setBot (k : Entity) : Entity := { k with flags := k.flags ||| kEntityFlagBot }

@[simp] theorem identity_clearBot (k : Entity) : k.clearBot.identity = k.identity := rfl

@[simp] theorem identity_setBot (k : Entity) : k.setBot.identity = k.identity := rfl

theorem hasBot_eq (k : Entity) : k.hasBot = k.flags.getLsbD 4 := by
  have hbit : k.flags &&& kEntityFlagBot = if k.flags.getLsbD 4 then kEntityFlagBot else 0 := by
    unfold kEntityFlagBot
    exact BitVec.and_twoPow k.flags 4
  unfold hasBot
  rw [hbit]
  cases k.flags.getLsbD 4 <;> decide

theorem hasBot_clearBot (k : Entity) : k.clearBot.hasBot = false := by
  rw [hasBot_eq]
  simp [clearBot, kEntityFlagBot]

theorem hasBot_setBot (k : Entity) : k.setBot.hasBot = true := by
  rw [hasBot_eq]
  simp [setBot, kEntityFlagBot]

theorem setBot_setBot (k : Entity) : k.setBot.setBot = k.setBot := by
  unfold setBot
  dsimp only
  rw [BitVec.or_assoc, BitVec.or_self]

end Entity

/-- `PawnRef`. -/
structure PawnRef where
  pawn : Nat
  handle : UInt32
  deriving DecidableEq

/-- `ResolveClientPawn`. `pawnHandles` is the pawn handle in the controller at an entity index;
it is `none` when the field was not resolved. -/
def Engine.resolveClientPawn (e : Engine) (pawnHandles : Option (Nat → UInt32))
    (client : Option Client) : Option PawnRef :=
  match client, pawnHandles with
  | some client, some pawnHandles =>
    match e.resolveController client with
    | none => none
    | some controller =>
      if controller.beingDeleted then none
      else
        let pawnHandle := pawnHandles client.entityIndex.toNat
        if pawnHandle = 0xFFFFFFFF then none
        else
          match e.resolveEntityInstance (entryIndex pawnHandle) with
          | none => none
          | some pawn =>
            if pawn.beingDeleted ∨ pawn.handle ≠ pawnHandle then none
            else some ⟨pawn.addr, pawnHandle⟩
  | _, _ => none

/-! ## The overrides -/

section Overrides

variable (m : FakeClientManager) (pawnHandles : Option (Nat → UInt32))

/-- One slot of `ApplyBotFlagOverride`: the engine and `modified`. -/
def applyBotFlagSlot (s : Engine × List PawnRef) (slot : Slot) : Engine × List PawnRef :=
  if !m.isManaged slot then s
  else
    match s.1.resolveClientPawn pawnHandles (s.1.resolveClientBySlot slot) with
    | none => s
    | some ref =>
      match s.1.resolveEntityInstance (entryIndex ref.handle) with
      | none => s
      | some pawn =>
        if !pawn.hasBot then s
        else (s.1.modifyEntity (entryIndex ref.handle) Entity.clearBot, s.2 ++ [ref])

/-- `ApplyBotFlagOverride`. -/
def applyBotFlagOverride (e : Engine) (modified : List PawnRef) : Engine × List PawnRef :=
  allSlots.foldl (applyBotFlagSlot m pawnHandles) (e, modified)

/-- The body of the loop of `RestoreBotFlagOverride`. -/
def restoreBotFlag (e : Engine) (ref : PawnRef) : Engine :=
  match e.resolveEntityInstance (entryIndex ref.handle) with
  | none => e
  | some pawn =>
    if pawn.addr ≠ ref.pawn ∨ pawn.beingDeleted ∨ pawn.handle ≠ ref.handle then e
    else e.modifyEntity (entryIndex ref.handle) Entity.setBot

/-- `RestoreBotFlagOverride`. -/
def restoreBotFlagOverride (e : Engine) (pawns : List PawnRef) : Engine :=
  pawns.foldl restoreBotFlag e

end Overrides

/-! ## The hooks -/

/-- The world with what packing needs besides: the pawn handles of the controllers, and
`g_packEntitiesDepth` and `g_packedPawns` of one thread. The depth counts calls on one stack,
so it does not wrap. -/
structure Packing where
  world : World
  pawnHandles : Option (Nat → UInt32)
  packEntitiesDepth : Int := 0
  packedPawns : List PawnRef := []

namespace Packing

variable (p : Packing)

/-- The engine in place of the world's. -/
def withEngine (e : Engine) (packed : List PawnRef) : Packing :=
  { p with world := p.world.withEngine e, packedPawns := packed }

/-- `PackPre`. -/
def packPre : Packing :=
  let opened :=
    if p.packEntitiesDepth = 0 ∧ p.world.isDisguiseEnabled then
      let cleared := applyBotFlagOverride p.world.manager p.pawnHandles p.world.engine p.packedPawns
      p.withEngine cleared.1 cleared.2
    else p
  { opened with packEntitiesDepth := p.packEntitiesDepth + 1 }

/-- `PackPost`. -/
def packPost : Packing :=
  let closed :=
    if p.packEntitiesDepth - 1 = 0 then
      p.withEngine (restoreBotFlagOverride p.world.engine p.packedPawns) []
    else p
  { closed with packEntitiesDepth := p.packEntitiesDepth - 1 }

end Packing

end BotHider.Model
