import BotHider.Avatar.Stirs
import BotHider.Model.SlotSpecs

/-!
# BotHider — writes through the bridge

`BH_SetSteamId`, `BH_SetCrosshair`, `BH_SetFlair` and `BH_SetAvatar` decide on everything that
can go wrong before they write: a rejected call changes nothing, and an accepted one writes
its target slot and there its own fields (`World.Wrote`). Only a SteamID reaches the engine,
where it writes the target's client and, in Player mode, takes off its disguise marks
(`Engine.Renumbered`).
-/

namespace BotHider.Model

/-! ## Calls -/

/-- A setter of the bridge, with what it is given beside the slot and its incarnation. -/
inductive BridgeCall
  | steamId (steamId : UInt64) (alloc : Bool)
  | crosshair (code : Option Bytes) (length : Int)
  | flair (flair : UInt32)
  | avatar (data : Option Bytes) (length : Int) (alloc : Bool)

/-- The world after a setter, and whether it returned 1. -/
def World.bridgeCall (w : World) (slot : Int) (incarnation : UInt64) : BridgeCall → World × Bool
  | .steamId steamId alloc => w.bhSetSteamId slot incarnation steamId alloc
  | .crosshair code length => w.bhSetCrosshair slot incarnation code length
  | .flair flair => w.bhSetFlair slot incarnation flair
  | .avatar data length alloc => w.bhSetAvatar slot incarnation data length alloc

namespace BridgeCall

/-- A slot's record without the fields the setter writes. -/
def others (s : ManagedSlot) : BridgeCall → ManagedSlot
  | .steamId .. => { s with snapshot := { s.snapshot with steamId := 0 } }
  | .crosshair .. => { s with snapshot := { s.snapshot with crosshair := .zero _ } }
  | .flair _ => { s with snapshot := { s.snapshot with scoreboardFlair := 0 } }
  | .avatar .. =>
    { s with
      avatar := {}
      snapshot := { s.snapshot with avatarLength := 0, avatarApplied := false, avatarSteamId := 0 } }

/-- The setter's fields hold what it was given; an avatar is requested and not yet applied. -/
def Stored (s : ManagedSlot) : BridgeCall → Prop
  | .steamId sid _ => s.snapshot.steamId = sid
  | .crosshair code length => code.map (List.take length.toNat) = some s.snapshot.crosshair.text
  | .flair value => s.snapshot.scoreboardFlair = value
  | .avatar data length _ =>
    s.avatar.data = (data.map (List.take length.toNat)).getD [] ∧
      s.avatar.incarnation = s.snapshot.incarnation ∧ s.snapshot.avatarApplied = false

end BridgeCall

/-- What a new SteamID does to the engine: the slot's client carries it, and in Player mode
the client and its controller lose the marks of a bot. -/
structure Engine.Renumbered (slot : Slot) (steamId : UInt64) (disguised : Bool) (e e' : Engine) :
    Prop where
  only : Engine.Only slot.val e e'
  client : e'.resolveClientBySlot slot = (e.resolveClientBySlot slot).map fun c =>
    (if disguised then c.clearFakePlayer else c).writeSteamId steamId
  controller : e'.controllerAt slot = (e.controllerAt slot).map fun k =>
    if disguised then k.withFakeClient false else k
  entities : ∀ i, (∀ c, e.resolveClientBySlot slot = some c → (e.resolveController c).isSome →
    c.entityIndex.toNat ≠ i) → e'.entities i = e.entities i
  players : e'.players = e.players

/-- What an accepted setter writes: the slot's record, in its own fields, and for a SteamID
the slot's client and controller. -/
structure World.Wrote (w : World) (slot : Slot) (call : BridgeCall) (w' : World) : Prop where
  slots : ∀ t, t ≠ slot → w'.manager.slots t = w.manager.slots t
  fields : call.others (w'.manager.slots slot) = call.others (w.manager.slots slot)
  stored : call.Stored (w'.manager.slots slot)
  engine : match call with
    | .steamId steamId _ => Engine.Renumbered slot steamId w.isDisguiseEnabled w.engine w'.engine
    | _ => w'.engine = w.engine
  rest : { w' with manager := { w'.manager with slots := w.manager.slots }, engine := w.engine } = w

variable {w : World} {slot : Slot} {sid : UInt64}

/-! ## The engine -/

theorem entities_setControllerFakeClientFlag (e : Engine) (slot : Slot) (b : Bool) {i : Nat}
    (hi : ∀ c, e.resolveClientBySlot slot = some c → (e.resolveController c).isSome →
      c.entityIndex.toNat ≠ i) :
    (e.setControllerFakeClientFlag slot b).entities i = e.entities i := by
  unfold Engine.setControllerFakeClientFlag
  split
  · rfl
  · rename_i c hc
    split
    · rfl
    · rename_i k hk
      exact Function.update_of_ne (hi c hc (Option.isSome_of_eq_some hk)).symm ..

theorem entities_disguiseClient (w : World) (slot : Slot) (b : Bool) {i : Nat}
    (hi : ∀ c, w.engine.resolveClientBySlot slot = some c →
      (w.engine.resolveController c).isSome → c.entityIndex.toNat ≠ i) :
    (w.disguiseClient slot b).engine.entities i = w.engine.entities i := by
  refine entities_setControllerFakeClientFlag _ slot b fun c' hc' hk => ?_
  rw [Engine.resolveClientBySlot_modifyClient_self] at hc'
  obtain ⟨c, hc, rfl⟩ := Option.map_eq_some_iff.mp hc'
  exact hi c hc hk

theorem players_disguiseClient (w : World) (slot : Slot) (b : Bool) :
    (w.disguiseClient slot b).engine.players = w.engine.players := by
  unfold World.disguiseClient Engine.setControllerFakeClientFlag
  dsimp only [World.withEngine]
  split
  · rfl
  · split <;> rfl

/-- The world after an accepted SteamID. -/
theorem applySteamIdCommand_of_accepted (h : (w.applySteamIdCommand slot sid).2 = true) :
    (w.applySteamIdCommand slot sid).1 =
      ((if w.isDisguiseEnabled then w.disguiseClient slot false else w).writeSteamId slot
        sid).withManager (w.manager.setSyntheticSid slot sid) := by
  unfold World.applySteamIdCommand at h ⊢
  cases hc : w.engine.resolveClientBySlot slot with
  | none =>
    rw [hc] at h
    cases h
  | some c =>
    rw [hc] at h
    dsimp only at h ⊢
    split at h
    · cases h
    · rename_i havail
      rw [if_neg havail]
      cases w.isDisguiseEnabled <;> rfl

/-- It is written to the slot's client and controller only. -/
theorem renumbered_applySteamIdCommand (h : (w.applySteamIdCommand slot sid).2 = true) :
    Engine.Renumbered slot sid w.isDisguiseEnabled w.engine
      (w.applySteamIdCommand slot sid).1.engine := by
  rcases applySteamIdCommand_cases w slot sid with ⟨hw, -⟩ | ⟨-, -, -, hclient, hcontroller⟩
  · rw [hw] at h
    cases h
  · -- an accepted command disguises the client in Player mode and writes the SteamID last
    refine ⟨?_, hclient, hcontroller, fun i hi => ?_, ?_⟩
    · rw [applySteamIdCommand_of_accepted h]
      refine Engine.Only.trans ?_ (confined_writeSteamId _ slot sid).engine
      split
      · exact (confined_disguiseClient w slot false).engine
      · exact .refl _ _
    · rw [applySteamIdCommand_of_accepted h]
      change (if w.isDisguiseEnabled then w.disguiseClient slot false else w).engine.entities i = _
      split
      · exact entities_disguiseClient w slot false hi
      · rfl
    · rw [applySteamIdCommand_of_accepted h]
      change (if w.isDisguiseEnabled then w.disguiseClient slot false else w).engine.players = _
      split
      · exact players_disguiseClient w slot false
      · rfl

/-! ## The setters, case by case -/

/-- What `BH_SetCrosshair` can do. -/
theorem bhSetCrosshair_cases (w : World) (slot : Int) (incarnation : UInt64)
    (code : Option Bytes) (length : Int) :
    (∃ index buffer, w.target slot incarnation = some index ∧
      World.copyInput kCrosshairLen code length = some buffer ∧
      w.bhSetCrosshair slot incarnation code length =
        (w.withManager (w.manager.updateCrosshair index buffer), true)) ∨
    w.bhSetCrosshair slot incarnation code length = (w, false) := by
  unfold World.bhSetCrosshair
  cases w.target slot incarnation with
  | none => exact Or.inr rfl
  | some index =>
    dsimp only
    cases World.copyInput kCrosshairLen code length with
    | none => exact Or.inr rfl
    | some buffer => exact Or.inl ⟨index, buffer, rfl, rfl, rfl⟩

/-- What `BH_SetFlair` can do. -/
theorem bhSetFlair_cases (w : World) (slot : Int) (incarnation : UInt64) (flair : UInt32) :
    (∃ index, w.target slot incarnation = some index ∧
      w.bhSetFlair slot incarnation flair =
        (w.withManager (w.manager.updateScoreboardFlair index flair), true)) ∨
    w.bhSetFlair slot incarnation flair = (w, false) := by
  unfold World.bhSetFlair
  cases w.target slot incarnation with
  | none => exact Or.inr rfl
  | some index =>
    dsimp only
    split
    · exact Or.inr rfl
    · exact Or.inl ⟨index, rfl, rfl⟩

/-! ## What an accepted setter writes -/

theorem wrote_steamId {alloc : Bool} (h : (w.applySteamIdCommand slot sid).2 = true) :
    w.Wrote slot (.steamId sid alloc) (w.applySteamIdCommand slot sid).1 := by
  have hengine := renumbered_applySteamIdCommand h
  have hslots : (w.applySteamIdCommand slot sid).1.manager =
      w.manager.setSyntheticSid slot sid := by
    rw [applySteamIdCommand_of_accepted h]
    rfl
  have hself : (w.applySteamIdCommand slot sid).1.manager.slots slot =
      { w.manager.slots slot with
        snapshot := { (w.manager.slots slot).snapshot with steamId := sid } } := by
    rw [hslots]
    exact FakeClientManager.setSlot_slots_self ..
  refine ⟨fun t ht => ?_, ?_, ?_, hengine, ?_⟩
  · rw [hslots]
    exact FakeClientManager.modifySnapshot_slots_of_ne _ ht _
  · rw [hself]
    rfl
  · rw [hself]
    rfl
  · rw [applySteamIdCommand_of_accepted h]
    cases w.isDisguiseEnabled <;> rfl

/-- A setter that only changes its target's record. -/
theorem wrote_setSlot {call : BridgeCall} {s : ManagedSlot}
    (hfields : call.others s = call.others (w.manager.slots slot)) (hstored : call.Stored s)
    (hcall : ∀ steamId alloc, call ≠ .steamId steamId alloc) :
    w.Wrote slot call (w.withManager (w.manager.setSlot slot s)) := by
  have hself : ((w.withManager (w.manager.setSlot slot s)).manager.slots slot) = s :=
    FakeClientManager.setSlot_slots_self ..
  refine ⟨fun t ht => FakeClientManager.setSlot_slots_of_ne _ ht s, ?_, ?_, ?_, rfl⟩
  · rwa [hself]
  · rwa [hself]
  · cases call with
    | steamId steamId alloc => exact absurd rfl (hcall steamId alloc)
    | _ => rfl

/-- A copied input is stored as it is: the copy leaves room and has no NUL. -/
theorem text_copyText_of_copyInput {n : Nat} {text : Option Bytes} {length : Int} {buffer : Bytes}
    (h : World.copyInput n text length = some buffer) :
    text.map (List.take length.toNat) = some (copyText n (some buffer)).text := by
  unfold World.copyInput at h
  split at h
  · cases h
  · rename_i bytes
    split at h
    · cases h
    · rename_i hok
      simp only [not_or, Int.not_lt, ge_iff_le, Int.not_le] at hok
      obtain rfl := Option.some.inj h
      rw [text_copyText, Option.getD_some, cstr_of_notMem hok.2.2, List.take_of_length_le]
      · rfl
      · rw [List.length_take]
        omega

theorem wrote_avatar {data : Option Bytes} {length : Int} {alloc : Bool} :
    w.Wrote slot (.avatar data length alloc) (w.withManager (w.manager.setAvatarRequest slot
      ((data.map (List.take length.toNat)).getD []))) := by
  have hset : ∀ bytes, w.manager.setAvatarRequest slot bytes = w.manager.setSlot slot
      { w.manager.slots slot with
        avatar :=
          { sequence := (w.manager.slots slot).avatar.sequence + 1
            length := UInt32.ofNat bytes.length
            data := bytes
            incarnation := (w.manager.slots slot).snapshot.incarnation }
        snapshot :=
          { (w.manager.slots slot).snapshot with
            avatarLength := UInt32.ofNat bytes.length
            avatarApplied := false
            avatarSteamId := 0 } } := by
    intro bytes
    unfold FakeClientManager.setAvatarRequest FakeClientManager.publishAvatarState
      FakeClientManager.modifySnapshot
    simp [FakeClientManager.setSlot]
  rw [hset]
  exact wrote_setSlot rfl ⟨rfl, rfl, rfl⟩ nofun

/-- **Bridge writes.** In any state and for any arguments, a setter that returns 0 has changed
nothing, and one that returns 1 has changed its target slot only: there its own fields, which
hold what it was given, and for a SteamID the slot's client and controller. -/
theorem bridge_writes_exact (w : World) (slot : Int) (incarnation : UInt64) (call : BridgeCall) :
    let r := w.bridgeCall slot incarnation call
    (r.2 = false → r.1 = w) ∧
    (r.2 = true → ∃ index, slotOf slot = some index ∧ w.target slot incarnation = some index ∧
      w.Wrote index call r.1) := by
  -- a call is turned away at its checks, or it has a live target
  suffices hcases : w.bridgeCall slot incarnation call = (w, false) ∨
      ∃ index, w.target slot incarnation = some index ∧
        ((w.bridgeCall slot incarnation call).2 = true →
          w.Wrote index call (w.bridgeCall slot incarnation call).1) ∧
        ((w.bridgeCall slot incarnation call).2 = false →
          (w.bridgeCall slot incarnation call).1 = w) by
    rcases hcases with hw | ⟨index, htarget, hwrote, hrejected⟩
    · rw [hw]
      exact ⟨fun _ => rfl, nofun⟩
    · exact ⟨hrejected, fun h => ⟨index, slotOf_of_target htarget, htarget, hwrote h⟩⟩
  cases call with
  | steamId sid alloc =>
    rcases bhSetSteamId_cases w slot incarnation sid alloc with ⟨index, htarget, hw⟩ | hw
    · refine Or.inr ⟨index, htarget, ?_⟩
      change ((w.bhSetSteamId slot incarnation sid alloc).2 = true → _) ∧
        ((w.bhSetSteamId slot incarnation sid alloc).2 = false → _)
      unfold World.bridgeCall
      dsimp only
      rw [hw]
      refine ⟨wrote_steamId, fun h => ?_⟩
      -- the SteamID may still be taken, which leaves the world alone
      rcases applySteamIdCommand_cases w index sid with ⟨hrejected, -⟩ | ⟨-, haccepted, -⟩
      · rw [hrejected]
      · exact absurd (haccepted.symm.trans h) (by decide)
    · exact Or.inl hw
  | crosshair code length =>
    rcases bhSetCrosshair_cases w slot incarnation code length with
      ⟨index, buffer, htarget, hcopy, hw⟩ | hw
    · refine Or.inr ⟨index, htarget, ?_⟩
      unfold World.bridgeCall
      dsimp only
      rw [hw]
      exact ⟨fun _ => wrote_setSlot rfl (text_copyText_of_copyInput hcopy) nofun, nofun⟩
    · exact Or.inl hw
  | flair value =>
    rcases bhSetFlair_cases w slot incarnation value with ⟨index, htarget, hw⟩ | hw
    · refine Or.inr ⟨index, htarget, ?_⟩
      unfold World.bridgeCall
      dsimp only
      rw [hw]
      exact ⟨fun _ => wrote_setSlot rfl rfl nofun, nofun⟩
    · exact Or.inl hw
  | avatar data length alloc =>
    rcases bhSetAvatar_cases w slot incarnation data length alloc with ⟨index, htarget, hw⟩ | hw
    · refine Or.inr ⟨index, htarget, ?_⟩
      unfold World.bridgeCall
      dsimp only
      rw [hw]
      exact ⟨fun _ => wrote_avatar, nofun⟩
    · exact Or.inl hw

end BotHider.Model
