import BotHider.Lib.Token
import BotHider.Model.Bridge
import BotHider.Model.Ping

/-!
# BotHider — the slot manager

`fake_client_manager.cpp`: the per-slot records behind the bridge, and the
incarnation counter that names each adoption of a slot. The clock a function
reads is an argument. The signature table, which nothing modelled reads, is left
out.

An update of one slot is `setSlot`; the `@[simp]` lemmas beside each operation
say what it does to the fields other modules read.
-/

namespace BotHider.Model

/-- `FakeClientManager::AvatarRequest`. -/
structure AvatarRequest where
  sequence : UInt32 := 0
  length : UInt32 := 0
  incarnation : UInt64 := 0
  data : Bytes := []

/-- `FakeClientManager::ManagedSlot`. -/
structure ManagedSlot where
  snapshot : SlotSnapshot := {}
  avatar : AvatarRequest := {}
  jitter : PingJitter
  display : PingDisplay := {}

/-- `FakeClientManager`. -/
structure FakeClientManager where
  slots : Slot → ManagedSlot
  rngState : UInt64 := 0
  nextIncarnation : UInt64 := 0
  ready : Bool := false
  attached : Bool := false
  fakePingEnabled : Bool := true
  fakePingMinimum : Int := 20
  fakePingMaximum : Int := 90

namespace FakeClientManager

variable (m : FakeClientManager)

/-! ## Observers -/

/-- `IsManaged`. -/
def isManaged (slot : Slot) : Bool := (m.slots slot).snapshot.managed

/-- `GetSyntheticSid`. -/
def getSyntheticSid (slot : Slot) : UInt64 := (m.slots slot).snapshot.steamId

/-- `GetSlotName`. -/
def getSlotName (slot : Slot) : Bytes := (m.slots slot).snapshot.name.text

/-- `GetIncarnation`. -/
def getIncarnation (slot : Slot) : UInt64 := (m.slots slot).snapshot.incarnation

/-- `GetAvatarRequest`. -/
def getAvatarRequest (slot : Slot) : AvatarRequest := (m.slots slot).avatar

/-! ## Updates of one slot -/

/-- Replaces one slot's record. -/
def setSlot (slot : Slot) (s : ManagedSlot) : FakeClientManager :=
  { m with slots := Function.update m.slots slot s }

@[simp] theorem setSlot_slots_self (slot : Slot) (s : ManagedSlot) :
    (m.setSlot slot s).slots slot = s := Function.update_self ..

@[simp] theorem setSlot_slots_of_ne {slot t : Slot} (h : t ≠ slot) (s : ManagedSlot) :
    (m.setSlot slot s).slots t = m.slots t := Function.update_of_ne h ..

@[simp] theorem setSlot_nextIncarnation (slot : Slot) (s : ManagedSlot) :
    (m.setSlot slot s).nextIncarnation = m.nextIncarnation := rfl

/-- `ClearSlot`: the record goes back to its defaults, but the avatar sequence
moves on. -/
def clearedSlot (s : ManagedSlot) : ManagedSlot :=
  { s with
    snapshot := {}
    display := {}
    avatar := { sequence := s.avatar.sequence + 1 } }

/-- `ReleaseSlot`. -/
def releaseSlot (slot : Slot) : FakeClientManager := m.setSlot slot (clearedSlot (m.slots slot))

/-- `ReleaseAll`. -/
def releaseAll : FakeClientManager := { m with slots := fun slot => clearedSlot (m.slots slot) }

/-- `if (++m_nextIncarnation == 0) ++m_nextIncarnation`. -/
def bumpIncarnation (n : UInt64) : UInt64 := if n + 1 = 0 then n + 1 + 1 else n + 1

/-- The text and number fields a slot is adopted with. -/
structure Adoption where
  name : Option Bytes
  steamId64 : UInt64
  crosshairCode : Bytes
  scoreboardFlair : UInt32
  clanTag : Bytes
  clanGroupId : UInt32

/-- `AdoptSlot`; `now` is the clock the jitter is seeded from. -/
def adoptSlot (slot : Slot) (a : Adoption) (now : UInt64) : FakeClientManager :=
  let s := clearedSlot (m.slots slot)
  let range := m.fakePingMaximum - m.fakePingMinimum + 1
  let rand := simpleRand m.rngState
  let baseline := m.fakePingMinimum + (rand.1 % toUint64 range).toNat
  let incarnation := bumpIncarnation m.nextIncarnation
  { m.setSlot slot
      { s with
        jitter := PingJitter.make now baseline m.fakePingMinimum m.fakePingMaximum
        snapshot :=
          { s.snapshot with
            steamId := a.steamId64
            baseSteamId := a.steamId64
            incarnation := incarnation
            managed := true
            ping := if m.fakePingEnabled then baseline else 0
            scoreboardFlair := a.scoreboardFlair
            clanGroupId := a.clanGroupId
            name := copyText _ a.name
            baseName := copyText _ a.name
            crosshair := copyText _ (some a.crosshairCode)
            clanTag := copyText _ (some a.clanTag) } } with
    rngState := rand.2
    nextIncarnation := incarnation }

/-- Changes one slot's snapshot. -/
def modifySnapshot (slot : Slot) (f : SlotSnapshot → SlotSnapshot) : FakeClientManager :=
  m.setSlot slot { m.slots slot with snapshot := f (m.slots slot).snapshot }

/-- `SetSyntheticSid`. -/
def setSyntheticSid (slot : Slot) (sid : UInt64) : FakeClientManager :=
  m.modifySnapshot slot fun s => { s with steamId := sid }

/-- `SetSlotName`. -/
def setSlotName (slot : Slot) (name : Option Bytes) : FakeClientManager :=
  m.modifySnapshot slot fun s => { s with name := copyText _ name }

/-- `UpdateCrosshair`. -/
def updateCrosshair (slot : Slot) (code : Bytes) : FakeClientManager :=
  m.modifySnapshot slot fun s => { s with crosshair := copyText _ (some code) }

/-- `UpdateScoreboardFlair`. -/
def updateScoreboardFlair (slot : Slot) (flair : UInt32) : FakeClientManager :=
  m.modifySnapshot slot fun s => { s with scoreboardFlair := flair }

/-- `PublishAvatarState`. -/
def publishAvatarState (slot : Slot) (applied : Bool) (steamId : UInt64) : FakeClientManager :=
  m.modifySnapshot slot fun s =>
    { s with avatarApplied := applied, avatarSteamId := if applied then steamId else 0 }

/-- `SetAvatarRequest`: the bytes and their length come as one list. -/
def setAvatarRequest (slot : Slot) (data : Bytes) : FakeClientManager :=
  let s := m.slots slot
  let length := UInt32.ofNat data.length
  (m.setSlot slot
    { s with
      avatar :=
        { sequence := s.avatar.sequence + 1
          length, data
          incarnation := s.snapshot.incarnation }
      snapshot := { s.snapshot with avatarLength := length } }).publishAvatarState slot false 0

/-! ## The manager as a whole -/

/-- One slot's round of `OnTick`. -/
def tickedSlot (s : ManagedSlot) : ManagedSlot :=
  if !s.snapshot.managed || !m.fakePingEnabled then s
  else
    let sample := s.jitter.nextSample
    let produced := (s.display.recordSample sample.1).maybeProduce
    { s with
      jitter := sample.2
      display := produced.2
      snapshot := if produced.1 ≥ 0 then { s.snapshot with ping := produced.1 } else s.snapshot }

/-- `OnTick`. -/
def onTick : FakeClientManager := { m with slots := fun slot => m.tickedSlot (m.slots slot) }

/-- A freshly constructed record; `now` seeds the default jitter. -/
def freshSlot (now : UInt64) : ManagedSlot := { jitter := PingJitter.make now 50 1 999 }

/-- `ConfigureFakePing`. -/
def configureFakePing (enabled : Bool) (minimumMs maximumMs : Int) : FakeClientManager :=
  { m with
    fakePingEnabled := enabled
    fakePingMinimum := minimumMs
    fakePingMaximum := maximumMs }

/-- `Init`: the clock seeds both the generator and the incarnation counter. -/
def init (now : UInt64) : FakeClientManager :=
  { m with
    slots := fun _ => freshSlot now
    rngState := now
    nextIncarnation := now
    attached := false
    ready := true }

/-- `Shutdown`. -/
def shutdown (now : UInt64) : FakeClientManager :=
  { m with
    ready := false
    slots := fun _ => freshSlot now }

/-- `Attach`, on the thread `Init` ran on when `thread` is set. -/
def attach (thread : Bool) : FakeClientManager × Bool :=
  if !(thread && m.ready) || m.attached then (m, false) else ({ m with attached := true }, true)

/-- `Detach`. -/
def detach : FakeClientManager := { m with attached := false }

/-! ## What the updates do -/

/-- A bump is the wrapping successor that skips zero. -/
theorem toNat_bumpIncarnation (n : UInt64) :
    (bumpIncarnation n).toNat = Token.bump (2 ^ 64 - 1) n.toNat := by
  have hlt := n.toNat_lt
  have hadd : (n + 1).toNat = (n.toNat + 1) % 2 ^ 64 := UInt64.toNat_add n 1
  unfold bumpIncarnation Token.bump
  split
  · rename_i hz
    rw [hz] at hadd ⊢
    simp only [UInt64.toNat_zero] at hadd
    have hn : n.toNat = 2 ^ 64 - 1 := by omega
    rw [hn]
    decide
  · rename_i hnz
    have hn : n.toNat ≠ 2 ^ 64 - 1 := by
      intro hn
      rw [hn] at hadd
      exact hnz (UInt64.toNat_inj.mp hadd)
    rw [hadd, Nat.mod_eq_of_lt (by omega), Nat.mod_eq_of_lt (by omega)]

theorem bumpIncarnation_ne_zero (n : UInt64) : bumpIncarnation n ≠ 0 := by
  intro h
  have := toNat_bumpIncarnation n
  rw [h] at this
  exact absurd this (Nat.ne_of_lt (Token.bump_pos ..))

theorem modifySnapshot_snapshot_self (slot : Slot) (f : SlotSnapshot → SlotSnapshot) :
    ((m.modifySnapshot slot f).slots slot).snapshot = f (m.slots slot).snapshot := by
  simp [modifySnapshot]

theorem modifySnapshot_slots_of_ne {slot t : Slot} (h : t ≠ slot)
    (f : SlotSnapshot → SlotSnapshot) : (m.modifySnapshot slot f).slots t = m.slots t := by
  simp [modifySnapshot, h]

@[simp] theorem modifySnapshot_avatar (slot t : Slot) (f : SlotSnapshot → SlotSnapshot) :
    ((m.modifySnapshot slot f).slots t).avatar = (m.slots t).avatar := by
  rcases eq_or_ne t slot with rfl | h
  · simp [modifySnapshot]
  · simp [modifySnapshot, h]

end FakeClientManager

end BotHider.Model
