import BotHider.Lib.Notice
import BotHider.Model.Frames

/-!
# BotHider — one slot's presentation

What the managed client shows of a slot is four fields of the slot's controller, and it keeps
marks and caches for them: together a `Panel`. The operations here are those of
`BotHiderImplPlugin.cs` on a panel, with what each does to the fields and which notifications
go through; `writeVisible_withPanel` and `Live.applyManagedSlot_eq` say that the world's panel
follows them.
-/

namespace BotHider.Model

/-- The fields of a controller that the managed client shows. -/
inductive Shown
  | name
  | steamId
  | crosshair
  | flair
  deriving DecidableEq

/-- What the managed client did to the controllers. -/
abbrev Effects := List (Notice.Entry Shown)

/-- A slot's controller, and what the managed client keeps for showing it. -/
structure Panel where
  player : Player
  pendingName : Bool
  pendingSid : Bool
  pendingScoreboardFlair : Bool
  appliedCrosshair : Bytes
  appliedScoreboardFlair : UInt32

/-- The panel of a slot that has this player. -/
def World.panelWith (w : World) (slot : Slot) (player : Player) : Panel where
  player := player
  pendingName := w.bridge.pendingName slot
  pendingSid := w.bridge.pendingSid slot
  pendingScoreboardFlair := w.bridge.pendingScoreboardFlair slot
  appliedCrosshair := w.bridge.appliedCrosshair slot
  appliedScoreboardFlair := w.bridge.appliedScoreboardFlair slot

/-- A slot's panel, if it has a player. -/
def World.panel (w : World) (slot : Slot) : Option Panel :=
  (w.engine.players slot).map (w.panelWith slot)

/-! ## Writes -/

namespace Panel

variable (p : Panel)

/-- `WriteVisibleName`. -/
def writeName (name : Bytes) (fault : Option Nat) : Panel × Effects :=
  if fault = some 0 then ({ p with pendingName := true }, [])
  else
    let written := { p with pendingName := true, player := { p.player with playerName := name } }
    let change := Notice.change .name (p.player.playerName ≠ name)
    if fault = some 1 then (written, change)
    else ({ written with pendingName := false }, change ++ [.notified .name])

/-- `WriteVisibleSid`. -/
def writeSid (sid : UInt64) (fault : Option Nat) : Panel × Effects :=
  if fault = some 0 then ({ p with pendingSid := true }, [])
  else
    let written := { p with pendingSid := true, player := { p.player with steamId := sid } }
    let change := Notice.change .steamId (p.player.steamId ≠ sid)
    if fault = some 1 then (written, change)
    else ({ written with pendingSid := false }, change ++ [.notified .steamId])

/-- `WriteVisibleCrosshair`, and the code kept as applied after it. -/
def writeCrosshair (code : Bytes) (fault : Option Nat) : Panel × Effects :=
  if fault = some 0 then (p, [])
  else
    let written := { p with player := { p.player with crosshairCodes := code } }
    let change := Notice.change .crosshair (p.player.crosshairCodes ≠ code)
    if fault = some 1 then (written, change)
    else ({ written with appliedCrosshair := code }, change ++ [.notified .crosshair])

/-- `TryApplyScoreboardFlair`, and the flair kept as applied when it returns true. -/
def writeFlair (flair : UInt32) (fault : Option Nat) : Panel × Effects :=
  match p.player.ranks with
  | none => (p, [])
  | some ranks =>
    if ranks.isEmpty then (p, [])
    else
      let result := World.writeRanks flair fault 0 ranks
      let written := { p with player := { p.player with ranks := some result.1 } }
      let change := Notice.change .flair (ranks ≠ result.1)
      if result.2.2 then ({ written with pendingScoreboardFlair := true }, change)
      else if p.pendingScoreboardFlair || result.2.1 ≠ 0 then
        if fault = some result.2.1 then ({ written with pendingScoreboardFlair := true }, change)
        else
          ({ written with pendingScoreboardFlair := false, appliedScoreboardFlair := flair },
            change ++ [.notified .flair])
      else ({ written with appliedScoreboardFlair := flair }, change)

/-- The `write` callbacks of the queued writes. -/
def writeVisible (snapshot : SlotSnapshot) (fault : Option Nat) : VisibleField → Panel × Effects
  | .name name => p.writeName name fault
  | .steamId =>
    if p.pendingSid ∨ p.player.steamId ≠ snapshot.steamId then p.writeSid snapshot.steamId fault
    else (p, [])
  | .crosshair code => p.writeCrosshair code fault
  | .scoreboardFlair itemDefIndex => p.writeFlair itemDefIndex fault

/-! ## A pass -/

/-- The name part of `ReconcileVisibleIdentity`. -/
def reconcileName (snapshot : SlotSnapshot) (fault : Option Nat) : Panel × Effects :=
  if p.pendingName ∨ p.player.playerName ≠ snapshot.name.text then
    p.writeName snapshot.name.text fault
  else (p, [])

/-- The crosshair part of `ApplyManagedSlot`. -/
def reconcileCrosshair (snapshot : SlotSnapshot) (fault : Option Nat) : Panel × Effects :=
  if p.appliedCrosshair ≠ snapshot.crosshair.text ∨
      p.player.crosshairCodes ≠ snapshot.crosshair.text then
    p.writeCrosshair snapshot.crosshair.text fault
  else (p, [])

/-- The flair part of `ApplyManagedSlot`. -/
def reconcileFlair (snapshot : SlotSnapshot) (fault : Option Nat) : Panel × Effects :=
  if p.pendingScoreboardFlair ∨ p.appliedScoreboardFlair ≠ snapshot.scoreboardFlair ∨
      !World.scoreboardFlairMatches p.player snapshot.scoreboardFlair then
    p.writeFlair snapshot.scoreboardFlair fault
  else (p, [])

/-- What `ApplyManagedSlot` does to the fields. -/
def pass (snapshot : SlotSnapshot) (faults : World.SlotFaults) : Panel × Effects :=
  let named := p.reconcileName snapshot faults.name
  let numbered := named.1.writeVisible snapshot faults.steamId .steamId
  let crossed := numbered.1.reconcileCrosshair snapshot faults.crosshair
  let flaired := crossed.1.reconcileFlair snapshot faults.scoreboardFlair
  (flaired.1, named.2 ++ numbered.2 ++ crossed.2 ++ flaired.2)

end Panel

/-! ## The world's panel -/

namespace World

/-- The world with a slot's panel replaced. -/
def withPanel (w : World) (slot : Slot) (p : Panel) : World :=
  { w with
    engine := { w.engine with players := Function.update w.engine.players slot (some p.player) }
    bridge :=
      { w.bridge with
        pendingName := Function.update w.bridge.pendingName slot p.pendingName
        pendingSid := Function.update w.bridge.pendingSid slot p.pendingSid
        pendingScoreboardFlair :=
          Function.update w.bridge.pendingScoreboardFlair slot p.pendingScoreboardFlair
        appliedCrosshair := Function.update w.bridge.appliedCrosshair slot p.appliedCrosshair
        appliedScoreboardFlair :=
          Function.update w.bridge.appliedScoreboardFlair slot p.appliedScoreboardFlair } }

variable (w : World) (slot : Slot) (p : Panel)

@[simp] theorem panel_withPanel : (w.withPanel slot p).panel slot = some p := by
  simp [panel, panelWith, withPanel]

theorem panel_withPanel_ne {t : Slot} (h : slot ≠ t) :
    (w.withPanel t p).panel slot = w.panel slot := by
  unfold panel panelWith withPanel
  simp [Function.update_of_ne h]

theorem players_withPanel : (w.withPanel slot p).engine.players slot = some p.player :=
  Function.update_self ..

/-- A world is the one with its own panel. -/
theorem withPanel_of_panel {w : World} {slot : Slot} {p : Panel} (h : w.panel slot = some p) :
    w.withPanel slot p = w := by
  obtain ⟨player, hplayer, rfl⟩ := Option.map_eq_some_iff.mp h
  have hplayers : Function.update w.engine.players slot (some player) = w.engine.players := by
    rw [← hplayer, Function.update_eq_self]
  unfold withPanel panelWith
  simp only [hplayers, Function.update_eq_self]

/-! ### Writes on a panel -/

theorem writeVisibleName_withPanel (name : Bytes) (fault : Option Nat) :
    (w.withPanel slot p).writeVisibleName slot p.player name fault =
      w.withPanel slot (p.writeName name fault).1 := by
  unfold writeVisibleName Panel.writeName
  by_cases h0 : fault = some 0
  · simp [h0, withPanel, withBridge]
  · by_cases h1 : fault = some 1
    · simp [h1, withPanel, withBridge, setPlayer, withEngine]
    · simp [h0, h1, withPanel, withBridge, setPlayer, withEngine]

theorem writeVisibleSid_withPanel (sid : UInt64) (fault : Option Nat) :
    (w.withPanel slot p).writeVisibleSid slot p.player sid fault =
      w.withPanel slot (p.writeSid sid fault).1 := by
  unfold writeVisibleSid Panel.writeSid
  by_cases h0 : fault = some 0
  · simp [h0, withPanel, withBridge]
  · by_cases h1 : fault = some 1
    · simp [h1, withPanel, withBridge, setPlayer, withEngine]
    · simp [h0, h1, withPanel, withBridge, setPlayer, withEngine]

theorem writeVisible_withPanel_flair (snapshot : SlotSnapshot) (fault : Option Nat)
    (flair : UInt32) :
    (w.withPanel slot p).writeVisible slot p.player snapshot fault (.scoreboardFlair flair) =
      w.withPanel slot (p.writeFlair flair fault).1 := by
  have hpending : (w.withPanel slot p).bridge.pendingScoreboardFlair slot =
      p.pendingScoreboardFlair := Function.update_self ..
  unfold writeVisible tryApplyScoreboardFlair Panel.writeFlair
  rw [hpending]
  cases hranks : p.player.ranks with
  | none => rfl
  | some ranks =>
    dsimp only
    cases hempty : ranks.isEmpty with
    | true => rfl
    | false =>
      -- a rank write threw, or a notification was due and threw or not, or none was due
      cases hthrew : (writeRanks flair fault 0 ranks).2.2 with
      | true => simp [withPanel, withBridge, setPlayer, withEngine]
      | false =>
        cases hdue : (p.pendingScoreboardFlair ||
            decide ((writeRanks flair fault 0 ranks).2.1 ≠ 0)) with
        | true =>
          by_cases hfault : fault = some (writeRanks flair fault 0 ranks).2.1
          · rw [if_pos hfault, if_pos hfault]
            simp [withPanel, withBridge, setPlayer, withEngine]
          · rw [if_neg hfault, if_neg hfault]
            simp [withPanel, withBridge, setPlayer, withEngine]
        | false => simp [withPanel, withBridge, setPlayer, withEngine]

/-- Writing a field of a slot's controller is a write on the slot's panel. -/
theorem writeVisible_withPanel (snapshot : SlotSnapshot) (fault : Option Nat)
    (field : VisibleField) :
    (w.withPanel slot p).writeVisible slot p.player snapshot fault field =
      w.withPanel slot (p.writeVisible snapshot fault field).1 := by
  cases field with
  | name name => exact writeVisibleName_withPanel w slot p name fault
  | steamId =>
    have hpending : (w.withPanel slot p).bridge.pendingSid slot = p.pendingSid :=
      Function.update_self ..
    unfold writeVisible Panel.writeVisible
    rw [hpending]
    by_cases hwrite : p.pendingSid = true ∨ p.player.steamId ≠ snapshot.steamId
    · rw [if_pos hwrite, if_pos hwrite, writeVisibleSid_withPanel]
    · rw [if_neg hwrite, if_neg hwrite]
  | crosshair code =>
    unfold writeVisible Panel.writeVisible writeVisibleCrosshair Panel.writeCrosshair
    by_cases h0 : fault = some 0
    · simp [h0]
    · by_cases h1 : fault = some 1
      · simp [h1, withPanel, setPlayer, withEngine]
      · simp [h0, h1, withPanel, withBridge, setPlayer, withEngine]
  | scoreboardFlair flair => exact writeVisible_withPanel_flair w slot p snapshot fault flair

/-! ### A pass over a panel -/

theorem reconcileName_withPanel (snapshot : SlotSnapshot) (fault : Option Nat) :
    (w.withPanel slot p).reconcileName slot snapshot fault =
      w.withPanel slot (p.reconcileName snapshot fault).1 := by
  have hpending : (w.withPanel slot p).bridge.pendingName slot = p.pendingName :=
    Function.update_self ..
  unfold reconcileName Panel.reconcileName
  rw [players_withPanel, hpending]
  dsimp only
  by_cases hwrite : p.pendingName = true ∨ p.player.playerName ≠ snapshot.name.text
  · rw [if_pos hwrite, if_pos hwrite, writeVisibleName_withPanel]
  · rw [if_neg hwrite, if_neg hwrite]

theorem reconcileSid_withPanel (snapshot : SlotSnapshot) (fault : Option Nat) :
    (w.withPanel slot p).reconcileSid slot snapshot fault =
      w.withPanel slot (p.writeVisible snapshot fault .steamId).1 := by
  unfold reconcileSid
  rw [players_withPanel]
  exact writeVisible_withPanel ..

theorem reconcileCrosshair_withPanel (snapshot : SlotSnapshot) (fault : Option Nat) :
    (w.withPanel slot p).reconcileCrosshair slot snapshot fault =
      w.withPanel slot (p.reconcileCrosshair snapshot fault).1 := by
  have happlied : (w.withPanel slot p).bridge.appliedCrosshair slot = p.appliedCrosshair :=
    Function.update_self ..
  unfold reconcileCrosshair Panel.reconcileCrosshair
  rw [players_withPanel, happlied]
  dsimp only
  by_cases hwrite : p.appliedCrosshair ≠ snapshot.crosshair.text ∨
      p.player.crosshairCodes ≠ snapshot.crosshair.text
  · rw [if_pos hwrite, if_pos hwrite, writeVisible_withPanel]
    rfl
  · rw [if_neg hwrite, if_neg hwrite]

theorem reconcileFlair_withPanel (snapshot : SlotSnapshot) (fault : Option Nat) :
    (w.withPanel slot p).reconcileFlair slot snapshot fault =
      w.withPanel slot (p.reconcileFlair snapshot fault).1 := by
  have hpending : (w.withPanel slot p).bridge.pendingScoreboardFlair slot =
      p.pendingScoreboardFlair := Function.update_self ..
  have happlied : (w.withPanel slot p).bridge.appliedScoreboardFlair slot =
      p.appliedScoreboardFlair := Function.update_self ..
  unfold reconcileFlair Panel.reconcileFlair
  rw [players_withPanel, hpending, happlied]
  dsimp only
  by_cases hwrite : p.pendingScoreboardFlair = true ∨
      p.appliedScoreboardFlair ≠ snapshot.scoreboardFlair ∨
        (!scoreboardFlairMatches p.player snapshot.scoreboardFlair) = true
  · rw [if_pos hwrite, if_pos hwrite, writeVisible_withPanel]
    rfl
  · rw [if_neg hwrite, if_neg hwrite]

end World

/-! ## Lifetimes -/

/-- There are ranks to show a flair in. -/
def Panel.HasRanks (p : Panel) : Prop := ∃ rank ranks, p.player.ranks = some (rank :: ranks)

/-- The managed client presents the slot, in this lifetime: it sees the slot, has reset its
caches for the lifetime, and the slot's player is valid and has ranks. -/
structure World.Live (w : World) (slot : Slot) (incarnation : UInt64) : Prop where
  seen : ∃ s, w.readSlot slot.val = some s ∧ s.managed = true ∧ s.incarnation = incarnation
  observed : w.bridge.observedIncarnations slot = incarnation
  lifetime : incarnation ≠ 0
  player : ∃ p, w.panel slot = some p ∧ p.HasRanks

namespace World

variable {w : World} {slot : Slot} {incarnation : UInt64}

/-- In a lifetime a pass is the panel's. -/
theorem Live.applyManagedSlot_eq (h : w.Live slot incarnation) {snapshot : SlotSnapshot}
    (hsnapshot : w.readSlot slot.val = some snapshot) {p : Panel} (hp : w.panel slot = some p)
    (faults : SlotFaults) :
    w.applyManagedSlot slot faults = w.withPanel slot (p.pass snapshot faults).1 := by
  obtain ⟨s, hs, hmanaged, hincarnation⟩ := h.seen
  obtain rfl : s = snapshot := Option.some.inj (hs.symm.trans hsnapshot)
  have hclient : w.bridge.client.isNone = false := by
    unfold readSlot at hs
    cases hnone : w.bridge.client.isNone with
    | false => rfl
    | true => simp [hnone] at hs
  unfold applyManagedSlot Panel.pass
  -- the slot is managed and in the lifetime that was observed, so nothing is reset
  rw [hclient, hs, if_neg Bool.false_ne_true]
  dsimp only
  rw [hmanaged, hincarnation, h.observed, if_neg (by decide), if_neg h.lifetime,
    if_neg (not_not_intro rfl)]
  conv_lhs => rw [← withPanel_of_panel hp]
  rw [reconcileName_withPanel, reconcileSid_withPanel, reconcileCrosshair_withPanel,
    reconcileFlair_withPanel]

/-- The write that a queued action still makes, with the snapshot it reads. -/
def due (w : World) (write : VisibleWrite) : Option (SlotSnapshot × VisibleField) :=
  if w.bridge.client ≠ some write.client ∨
      w.bridge.presentationGeneration ≠ write.generation then none
  else
    match w.readSlot write.slot.val with
    | none => none
    | some snapshot =>
      if !snapshot.managed ∨ snapshot.incarnation ≠ write.incarnation then none
      else some (snapshot, write.field)

/-- The write that the oldest queued action makes on the slot. -/
def dueWrite (w : World) (slot : Slot) : Option (SlotSnapshot × VisibleField) :=
  match w.bridge.nextFrame with
  | [] => none
  | write :: _ => if write.slot = slot then w.due write else none

/-- What an action makes of the panel. -/
def afterWrite (p : Panel) (fault : Option Nat) : Option (SlotSnapshot × VisibleField) → Panel
  | none => p
  | some (snapshot, field) => (p.writeVisible snapshot fault field).1

/-- A write on another slot leaves a slot's panel alone. -/
theorem runVisibleWrite_ne (w : World) {write : VisibleWrite} (h : slot ≠ write.slot)
    (fault : Option Nat) :
    (w.runVisibleWrite write fault).panel slot = w.panel slot ∧
      (w.runVisibleWrite write fault).bridge.observedIncarnations slot =
        w.bridge.observedIncarnations slot := by
  unfold runVisibleWrite
  split
  · exact ⟨rfl, rfl⟩
  · split
    · exact ⟨rfl, rfl⟩
    · rename_i snapshot _
      split
      · exact ⟨rfl, rfl⟩
      · -- the other slot's caches may be reset first
        generalize hw' : (if w.bridge.observedIncarnations write.slot ≠ write.incarnation then
          w.resetAppliedSlot write.slot write.incarnation else w) = w'
        have hreset : w'.panel slot = w.panel slot ∧
            w'.bridge.observedIncarnations slot = w.bridge.observedIncarnations slot := by
          rw [← hw']
          split
          · unfold panel panelWith resetAppliedSlot withBridge
            simp [Function.update_of_ne h]
          · exact ⟨rfl, rfl⟩
        dsimp only
        cases hplayer : w'.engine.players write.slot with
        | none => exact hreset
        | some player =>
          have hpanel : w'.panel write.slot = some (w'.panelWith write.slot player) := by
            rw [panel, hplayer]
            rfl
          have hwrite := writeVisible_withPanel w' write.slot (w'.panelWith write.slot player)
            snapshot fault write.field
          rw [withPanel_of_panel hpanel] at hwrite
          dsimp only
          rw [show w'.writeVisible write.slot player snapshot fault write.field = _ from hwrite]
          exact ⟨(panel_withPanel_ne _ _ _ h).trans hreset.1, hreset.2⟩

/-- In a lifetime a queued action is its write on the panel. -/
theorem Live.runVisibleWrite_eq {write : VisibleWrite} (h : w.Live write.slot incarnation)
    {p : Panel} (hp : w.panel write.slot = some p) (fault : Option Nat) :
    w.runVisibleWrite write fault =
      w.withPanel write.slot (afterWrite p fault (w.due write)) := by
  obtain ⟨snapshot, hsnapshot, hmanaged, hincarnation⟩ := h.seen
  have hsame : w = w.withPanel write.slot p := (withPanel_of_panel hp).symm
  unfold runVisibleWrite due
  rw [hsnapshot]
  dsimp only
  by_cases hstale : w.bridge.client ≠ some write.client ∨
      w.bridge.presentationGeneration ≠ write.generation
  · -- the write was queued for another client or before a reset
    rw [if_pos hstale, if_pos hstale]
    exact hsame
  · rw [if_neg hstale, if_neg hstale]
    by_cases hother : !snapshot.managed ∨ snapshot.incarnation ≠ write.incarnation
    · -- it was queued in another lifetime
      rw [if_pos hother, if_pos hother]
      exact hsame
    · rw [if_neg hother, if_neg hother]
      rw [not_or, not_not] at hother
      rw [h.observed, if_neg (not_not_intro (hincarnation.symm.trans hother.2))]
      conv_lhs => rw [hsame]
      rw [players_withPanel]
      exact writeVisible_withPanel ..

/-- In a lifetime the next queued action makes the write that is due on the slot. -/
theorem Live.panel_runNextFrame (h : w.Live slot incarnation) {p : Panel}
    (hp : w.panel slot = some p) (fault : Option Nat) :
    (w.runNextFrame fault).panel slot = some (afterWrite p fault (w.dueWrite slot)) ∧
      (w.runNextFrame fault).bridge.observedIncarnations slot = incarnation := by
  unfold runNextFrame dueWrite
  cases w.bridge.nextFrame with
  | nil => exact ⟨hp, h.observed⟩
  | cons write rest =>
    dsimp only
    by_cases hslot : write.slot = slot
    · subst hslot
      have hlive : (w.withBridge { w.bridge with nextFrame := rest }).Live write.slot
          incarnation := ⟨h.seen, h.observed, h.lifetime, h.player⟩
      rw [if_pos rfl, hlive.runVisibleWrite_eq hp, panel_withPanel]
      exact ⟨rfl, h.observed⟩
    · rw [if_neg hslot]
      obtain ⟨hpanel, hobserved⟩ := runVisibleWrite_ne
        (w.withBridge { w.bridge with nextFrame := rest }) (Ne.symm hslot) fault
      exact ⟨hpanel.trans hp, hobserved.trans h.observed⟩

end World

end BotHider.Model
