import BotHider.Bridge.Panel
import BotHider.Registry.Runs

/-!
# BotHider — what is shown has been announced

A change of a controller's field reaches the clients with its notification, and either of the
two can throw. For the name, the SteamID and the flair a pending mark is set before the change
and cleared behind the notification. The crosshair has no mark: a pass writes it when the field
or the code it has as applied differs from the snapshot, so a change whose notification threw is
seen again only while the field differs from the applied code (`Panel.Remembers`).
`presentation_notified` says when that is enough.
-/

namespace BotHider.Model

namespace Panel

/-! ## What is owed, and what is remembered -/

/-- The panel remembers that a notification of the field may be missing. -/
def Remembers (p : Panel) : Shown → Prop
  | .name => p.pendingName = true
  | .steamId => p.pendingSid = true
  | .crosshair => p.player.crosshairCodes ≠ p.appliedCrosshair
  | .flair => p.pendingScoreboardFlair = true

/-- The controller's field is as in the snapshot. -/
def Shows (p : Panel) (s : SlotSnapshot) : Shown → Prop
  | .name => p.player.playerName = s.name.text
  | .steamId => p.player.steamId = s.steamId
  | .crosshair => p.player.crosshairCodes = s.crosshair.text
  | .flair => ∃ ranks, p.player.ranks = some ranks ∧ ∀ rank ∈ ranks, rank = s.scoreboardFlair

/-- Every notification that is owed is remembered. -/
def Sound (p : Panel) (log : Effects) : Prop :=
  ∀ f, Notice.owed f false log = true → p.Remembers f

/-- The field is as in the snapshot, and no notification of it is owed. -/
def Settled (p : Panel) (log : Effects) (s : SlotSnapshot) (f : Shown) : Prop :=
  p.Shows s f ∧ Notice.owed f false log = false

/-- A step that is about one field. -/
structure Touches (f : Shown) (p : Panel) (r : Panel × Effects) : Prop where
  only : ∀ e ∈ r.2, e.field = f
  remembers : ∀ g, g ≠ f → (r.1.Remembers g ↔ p.Remembers g)
  shows : ∀ g, g ≠ f → ∀ s, r.1.Shows s g ↔ p.Shows s g
  applied : f ≠ .crosshair → r.1.appliedCrosshair = p.appliedCrosshair
  ranks : p.HasRanks → r.1.HasRanks

/-- A step behind which the field's notification is remembered if it is owed. -/
def Keeps (f : Shown) (p : Panel) (r : Panel × Effects) : Prop :=
  ∀ o, (o = true → p.Remembers f) → Notice.owed f o r.2 = true → r.1.Remembers f

/-- A step that brings the field to the snapshot's value and owes nothing. -/
def Settles (f : Shown) (p : Panel) (r : Panel × Effects) (s : SlotSnapshot) : Prop :=
  r.1.Shows s f ∧ ∀ o, (o = true → p.Remembers f) → Notice.owed f o r.2 = false

variable {f : Shown} {p : Panel} {r : Panel × Effects} {log : Effects} {s : SlotSnapshot}

theorem touches_nil (f : Shown) (p : Panel) : Touches f p (p, []) :=
  ⟨fun _ he => (nomatch he), fun _ _ => Iff.rfl, fun _ _ _ => Iff.rfl, fun _ => rfl, id⟩

theorem keeps_nil (f : Shown) (p : Panel) : Keeps f p (p, []) := fun _ h ho => h ho

theorem Settles.keeps (h : Settles f p r s) : Keeps f p r := fun o ho howed => by
  rw [h.2 o ho] at howed
  cases howed

/-- A step about another field leaves what is owed of this one. -/
theorem Touches.owed_of_ne (h : Touches f p r) {g : Shown} (hne : g ≠ f) (log : Effects) :
    Notice.owed g false (log ++ r.2) = Notice.owed g false log := by
  rw [Notice.owed_append]
  exact Notice.owed_of_ne fun e he => by
    rw [h.only e he]
    exact Ne.symm hne

theorem Touches.sound (h : Touches f p r) (hkeeps : Keeps f p r) (hsound : p.Sound log) :
    r.1.Sound (log ++ r.2) := by
  intro g howed
  by_cases hg : g = f
  · subst hg
    rw [Notice.owed_append] at howed
    exact hkeeps _ (hsound g) howed
  · rw [h.owed_of_ne hg] at howed
    exact (h.remembers g hg).mpr (hsound g howed)

theorem Touches.settled (h : Touches f p r) (hsound : p.Sound log) (hsettles : Settles f p r s)
    {g : Shown} (hg : g = f ∨ p.Settled log s g) : r.1.Settled (log ++ r.2) s g := by
  by_cases hgf : g = f
  · subst hgf
    refine ⟨hsettles.1, ?_⟩
    rw [Notice.owed_append]
    exact hsettles.2 _ (hsound g)
  · obtain ⟨hshows, howed⟩ := hg.resolve_left hgf
    exact ⟨(h.shows g hgf s).mpr hshows, (h.owed_of_ne hgf log).trans howed⟩

/-! ## Steps of one shape -/

section Shapes

variable {c : Prop} [Decidable c]

/-- A step that is taken only where it is due. -/
theorem Touches.guarded (h : Touches f p r) : Touches f p (if c then r else (p, [])) := by
  split
  · exact h
  · exact touches_nil f p

theorem Keeps.guarded (h : Keeps f p r) : Keeps f p (if c then r else (p, [])) := by
  split
  · exact h
  · exact keeps_nil f p

/-- A step that settles its field may be left out where the field shows the value and nothing
of it is remembered. -/
theorem Settles.guarded (h : Settles f p r s) (hskip : ¬ c → p.Shows s f ∧ ¬ p.Remembers f) :
    Settles f p (if c then r else (p, [])) s := by
  split
  · exact h
  · rename_i hc
    refine ⟨(hskip hc).1, fun o ho => ?_⟩
    cases o with
    | false => rfl
    | true => exact absurd (ho rfl) (hskip hc).2

variable {before written done : Panel} {fault : Option Nat} {changes : Bool}

/-- A write and its notification, each of which may throw. -/
theorem touches_write (hbefore : Touches f p (before, []))
    (hwritten : ∀ effects : Effects, (∀ e ∈ effects, e.field = f) → Touches f p (written, effects))
    (hdone : ∀ effects : Effects, (∀ e ∈ effects, e.field = f) → Touches f p (done, effects)) :
    Touches f p
      (if fault = some 0 then (before, [])
      else if fault = some 1 then (written, Notice.change f changes)
      else (done, Notice.change f changes ++ [.notified f])) := by
  split
  · exact hbefore
  · split
    · exact hwritten _ fun e he => Notice.field_of_mem_change he
    · exact hdone _ fun e he => Notice.field_of_mem_announced he

/-- A write under a mark that is set before it keeps what is owed remembered. -/
theorem keeps_marked (hbefore : before.Remembers f) (hwritten : written.Remembers f) :
    Keeps f p
      (if fault = some 0 then (before, [])
      else if fault = some 1 then (written, Notice.change f changes)
      else (done, Notice.change f changes ++ [.notified f])) := by
  intro o _ howed
  split at howed
  · rw [if_pos ‹_›]
    exact hbefore
  · rw [if_neg ‹_›]
    split at howed
    · rw [if_pos ‹_›]
      exact hwritten
    · rw [Notice.owed_concat_notified] at howed
      cases howed

end Shapes

/-! ## The name and the SteamID -/

theorem touches_name {a : Bool} {b : Bytes} {effects : Effects}
    (h : ∀ e ∈ effects, e.field = .name) :
    Touches .name p
      ({ p with pendingName := a, player := { p.player with playerName := b } }, effects) :=
  ⟨h, fun g hg => by cases g <;> first | exact absurd rfl hg | exact Iff.rfl,
    fun g hg s => by cases g <;> first | exact absurd rfl hg | exact Iff.rfl, fun _ => rfl, id⟩

theorem touches_writeName (p : Panel) (name : Bytes) (fault : Option Nat) :
    Touches .name p (p.writeName name fault) :=
  touches_write (touches_name fun _ he => nomatch he) (fun _ h => touches_name h)
    fun _ h => touches_name h

/-- The mark is set before the name is changed. -/
theorem keeps_writeName (p : Panel) (name : Bytes) (fault : Option Nat) :
    Keeps .name p (p.writeName name fault) := keeps_marked rfl rfl

theorem settles_writeName (p : Panel) (s : SlotSnapshot) :
    Settles .name p (p.writeName s.name.text none) s :=
  ⟨rfl, fun o _ => Notice.owed_concat_notified Shown.name o _⟩

theorem settles_reconcileName (p : Panel) (s : SlotSnapshot) :
    Settles .name p (p.reconcileName s none) s :=
  (settles_writeName p s).guarded fun h => ⟨not_not.mp (not_or.mp h).2, (not_or.mp h).1⟩

theorem touches_sid {a : Bool} {b : UInt64} {effects : Effects}
    (h : ∀ e ∈ effects, e.field = .steamId) :
    Touches .steamId p
      ({ p with pendingSid := a, player := { p.player with steamId := b } }, effects) :=
  ⟨h, fun g hg => by cases g <;> first | exact absurd rfl hg | exact Iff.rfl,
    fun g hg s => by cases g <;> first | exact absurd rfl hg | exact Iff.rfl, fun _ => rfl, id⟩

theorem touches_writeSid (p : Panel) (sid : UInt64) (fault : Option Nat) :
    Touches .steamId p (p.writeSid sid fault) :=
  touches_write (touches_sid fun _ he => nomatch he) (fun _ h => touches_sid h)
    fun _ h => touches_sid h

/-- The mark is set before the SteamID is changed. -/
theorem keeps_writeSid (p : Panel) (sid : UInt64) (fault : Option Nat) :
    Keeps .steamId p (p.writeSid sid fault) := keeps_marked rfl rfl

theorem settles_reconcileSid (p : Panel) (s : SlotSnapshot) :
    Settles .steamId p (p.writeVisible s none .steamId) s := by
  have hwrite : Settles .steamId p (p.writeSid s.steamId none) s :=
    ⟨rfl, fun o _ => Notice.owed_concat_notified Shown.steamId o _⟩
  exact hwrite.guarded fun h => ⟨not_not.mp (not_or.mp h).2, (not_or.mp h).1⟩

/-! ## The crosshair -/

theorem touches_crosshair {a b : Bytes} {effects : Effects}
    (h : ∀ e ∈ effects, e.field = .crosshair) :
    Touches .crosshair p
      ({ p with appliedCrosshair := a, player := { p.player with crosshairCodes := b } },
        effects) :=
  ⟨h, fun g hg => by cases g <;> first | exact absurd rfl hg | exact Iff.rfl,
    fun g hg s => by cases g <;> first | exact absurd rfl hg | exact Iff.rfl,
    fun h => absurd rfl h, id⟩

theorem touches_writeCrosshair (p : Panel) (code : Bytes) (fault : Option Nat) :
    Touches .crosshair p (p.writeCrosshair code fault) :=
  touches_write (touches_nil .crosshair p) (fun _ h => touches_crosshair h)
    fun _ h => touches_crosshair h

/-- A crosshair change whose notification threw shows, unless the applied code is the one that
was written. -/
theorem keeps_writeCrosshair (p : Panel) (code : Bytes) (fault : Option Nat)
    (h : fault = some 1 → p.appliedCrosshair = code → p.player.crosshairCodes = code) :
    Keeps .crosshair p (p.writeCrosshair code fault) := by
  intro o ho howed
  unfold writeCrosshair at howed ⊢
  dsimp only at howed ⊢
  split at howed
  · rw [if_pos ‹_›]
    exact ho howed
  · rw [if_neg ‹_›]
    split at howed
    · rename_i hfault
      rw [if_pos hfault]
      intro heq
      -- then the field had the code before, and what was owed is still remembered
      have hsame : p.player.crosshairCodes = code := h hfault heq.symm
      have hchange :
          Notice.change Shown.crosshair (decide (p.player.crosshairCodes ≠ code)) = [] := by
        rw [Notice.change, if_neg (by simpa using hsame)]
      rw [hchange] at howed
      exact ho howed (hsame.trans heq)
    · rw [Notice.owed_concat_notified] at howed
      cases howed

theorem settles_reconcileCrosshair (p : Panel) (s : SlotSnapshot) :
    Settles .crosshair p (p.reconcileCrosshair s none) s := by
  have hwrite : Settles .crosshair p (p.writeCrosshair s.crosshair.text none) s :=
    ⟨rfl, fun o _ => Notice.owed_concat_notified Shown.crosshair o _⟩
  refine hwrite.guarded fun h => ?_
  rw [not_or, not_not, not_not] at h
  exact ⟨h.2, fun hdiffers => hdiffers (h.2.trans h.1.symm)⟩

/-! ## The flair -/

theorem length_writeRanks (flair : UInt32) (fault : Option Nat) (written : Nat)
    (ranks : List UInt32) : (World.writeRanks flair fault written ranks).1.length =
      ranks.length := by
  induction ranks generalizing written with
  | nil => rfl
  | cons rank ranks ih =>
    unfold World.writeRanks
    split
    · exact congrArg (· + 1) (ih written)
    · split
      · rfl
      · exact congrArg (· + 1) (ih (written + 1))

/-- Without a fault every rank becomes the flair. -/
theorem writeRanks_none (flair : UInt32) (written : Nat) (ranks : List UInt32) :
    (World.writeRanks flair none written ranks).2.2 = false ∧
      ∀ rank ∈ (World.writeRanks flair none written ranks).1, rank = flair := by
  induction ranks generalizing written with
  | nil => exact ⟨rfl, fun _ h => (nomatch h)⟩
  | cons rank ranks ih =>
    unfold World.writeRanks
    split
    · rename_i hrank
      exact ⟨(ih written).1, List.forall_mem_cons.mpr ⟨hrank, (ih written).2⟩⟩
    · rw [if_neg (by simp)]
      exact ⟨(ih (written + 1)).1, List.forall_mem_cons.mpr ⟨rfl, (ih (written + 1)).2⟩⟩

/-- No rank was written: they are what they were. -/
theorem writeRanks_unwritten (flair : UInt32) (fault : Option Nat) (written : Nat)
    (ranks : List UInt32) :
    written ≤ (World.writeRanks flair fault written ranks).2.1 ∧
      ((World.writeRanks flair fault written ranks).2.1 = written →
        (World.writeRanks flair fault written ranks).1 = ranks) := by
  induction ranks generalizing written with
  | nil => exact ⟨Nat.le_refl _, fun _ => rfl⟩
  | cons rank ranks ih =>
    unfold World.writeRanks
    split
    · exact ⟨(ih written).1, fun h => congrArg (rank :: ·) ((ih written).2 h)⟩
    · split
      · exact ⟨Nat.le_succ _, fun _ => rfl⟩
      · have hle := (ih (written + 1)).1
        exact ⟨by dsimp only; omega, fun h => by dsimp only at h; omega⟩

theorem touches_flair {a : Bool} {b : UInt32} {before after : List UInt32} {effects : Effects}
    (hranks : p.player.ranks = some before) (hlen : after.length = before.length)
    (h : ∀ e ∈ effects, e.field = .flair) :
    Touches .flair p
      ({ p with
          pendingScoreboardFlair := a
          appliedScoreboardFlair := b
          player := { p.player with ranks := some after } }, effects) := by
  refine ⟨h, fun g hg => by cases g <;> first | exact absurd rfl hg | exact Iff.rfl,
    fun g hg s => by cases g <;> first | exact absurd rfl hg | exact Iff.rfl, fun _ => rfl, ?_⟩
  rintro ⟨rank, ranks, hp⟩
  obtain rfl := Option.some.inj (hranks.symm.trans hp)
  obtain ⟨rank', ranks', rfl⟩ := List.exists_cons_of_length_eq_add_one hlen
  exact ⟨rank', ranks', rfl⟩

theorem touches_writeFlair (p : Panel) (flair : UInt32) (fault : Option Nat) :
    Touches .flair p (p.writeFlair flair fault) := by
  unfold writeFlair
  split
  · exact touches_nil .flair p
  · rename_i ranks hranks
    have hlen := length_writeRanks flair fault 0 ranks
    split
    · exact touches_nil .flair p
    · dsimp only
      split
      · exact touches_flair hranks hlen fun e he => Notice.field_of_mem_change he
      · split
        · split
          · exact touches_flair hranks hlen fun e he => Notice.field_of_mem_change he
          · exact touches_flair hranks hlen fun e he => Notice.field_of_mem_announced he
        · exact touches_flair hranks hlen fun e he => Notice.field_of_mem_change he

/-- Without a rank to write there is no change. -/
theorem change_unwritten {flair : UInt32} {fault : Option Nat} {ranks : List UInt32}
    (h : (World.writeRanks flair fault 0 ranks).2.1 = 0) :
    Notice.change Shown.flair (decide (ranks ≠ (World.writeRanks flair fault 0 ranks).1)) = [] := by
  rw [(writeRanks_unwritten flair fault 0 ranks).2 h, Notice.change, if_neg (by simp)]

/-- The mark is set before a rank is changed. -/
theorem keeps_writeFlair (p : Panel) (flair : UInt32) (fault : Option Nat) :
    Keeps .flair p (p.writeFlair flair fault) := by
  unfold writeFlair
  split
  · exact keeps_nil .flair p
  · rename_i ranks hranks
    split
    · exact keeps_nil .flair p
    · dsimp only
      split
      · -- a write threw: the mark is set
        exact fun _ _ _ => rfl
      · split
        · split
          · -- the notification threw: the mark is set
            exact fun _ _ _ => rfl
          · intro o ho howed
            rw [Notice.owed_concat_notified] at howed
            cases howed
        · -- no rank was written and no mark was set
          rename_i hdue
          simp only [Bool.or_eq_true, decide_eq_true_eq, not_or, not_not] at hdue
          intro o ho howed
          rw [change_unwritten hdue.2] at howed
          exact ho howed

theorem settles_writeFlair {p : Panel} (h : p.HasRanks) (s : SlotSnapshot) :
    Settles .flair p (p.writeFlair s.scoreboardFlair none) s := by
  obtain ⟨rank, ranks, hranks⟩ := h
  obtain ⟨hthrew, hall⟩ := writeRanks_none s.scoreboardFlair 0 (rank :: ranks)
  unfold writeFlair
  rw [hranks]
  dsimp only
  rw [if_neg (by simp), hthrew, if_neg Bool.false_ne_true]
  split
  · rw [if_neg (by simp)]
    exact ⟨⟨_, rfl, hall⟩, fun o _ => Notice.owed_concat_notified Shown.flair o _⟩
  · rename_i hdue
    simp only [Bool.or_eq_true, decide_eq_true_eq, not_or, not_not] at hdue
    refine ⟨⟨_, rfl, hall⟩, fun o ho => ?_⟩
    rw [change_unwritten hdue.2]
    cases o with
    | false => rfl
    | true => exact absurd (ho rfl) hdue.1

theorem settles_reconcileFlair {p : Panel} (h : p.HasRanks) (s : SlotSnapshot) :
    Settles .flair p (p.reconcileFlair s none) s := by
  refine (settles_writeFlair h s).guarded fun hskip => ?_
  obtain ⟨rank, ranks, hranks⟩ := h
  rw [not_or, not_or, not_not] at hskip
  obtain ⟨hpending, -, hmatches⟩ := hskip
  refine ⟨⟨_, hranks, ?_⟩, hpending⟩
  unfold World.scoreboardFlairMatches at hmatches
  rw [hranks] at hmatches
  simpa using hmatches

/-! ## Passes and queued writes -/

theorem touches_reconcileName (p : Panel) (s : SlotSnapshot) (fault : Option Nat) :
    Touches .name p (p.reconcileName s fault) := (touches_writeName ..).guarded

theorem touches_reconcileSid (p : Panel) (s : SlotSnapshot) (fault : Option Nat) :
    Touches .steamId p (p.writeVisible s fault .steamId) := (touches_writeSid ..).guarded

theorem keeps_reconcileSid (p : Panel) (s : SlotSnapshot) (fault : Option Nat) :
    Keeps .steamId p (p.writeVisible s fault .steamId) := (keeps_writeSid p s.steamId fault).guarded

theorem touches_reconcileCrosshair (p : Panel) (s : SlotSnapshot) (fault : Option Nat) :
    Touches .crosshair p (p.reconcileCrosshair s fault) := (touches_writeCrosshair ..).guarded

theorem touches_reconcileFlair (p : Panel) (s : SlotSnapshot) (fault : Option Nat) :
    Touches .flair p (p.reconcileFlair s fault) := (touches_writeFlair ..).guarded

/-- A crosshair notification does not throw while the code that is kept as applied goes over
another one. -/
def CrosshairKept (p : Panel) (fault : Option Nat) (code : Bytes) : Prop :=
  fault = some 1 → p.appliedCrosshair = code → p.player.crosshairCodes = code

/-- A queued write owes nothing that is not remembered. -/
theorem sound_writeVisible (p : Panel) (s : SlotSnapshot) (fault : Option Nat)
    (field : VisibleField) (hkept : ∀ code, field = .crosshair code → p.CrosshairKept fault code)
    (h : p.Sound log) :
    (p.writeVisible s fault field).1.Sound (log ++ (p.writeVisible s fault field).2) ∧
      (p.HasRanks → (p.writeVisible s fault field).1.HasRanks) := by
  cases field with
  | name name =>
    have htouches := touches_writeName p name fault
    exact ⟨htouches.sound (keeps_writeName p name fault) h, htouches.ranks⟩
  | steamId =>
    have htouches := touches_reconcileSid p s fault
    exact ⟨htouches.sound (keeps_reconcileSid p s fault) h, htouches.ranks⟩
  | crosshair code =>
    have htouches := touches_writeCrosshair p code fault
    exact ⟨htouches.sound (keeps_writeCrosshair p code fault (hkept code rfl)) h,
      htouches.ranks⟩
  | scoreboardFlair flair =>
    have htouches := touches_writeFlair p flair fault
    exact ⟨htouches.sound (keeps_writeFlair p flair fault) h, htouches.ranks⟩

/-- A pass owes nothing that is not remembered. -/
theorem sound_pass (p : Panel) (s : SlotSnapshot) (faults : World.SlotFaults)
    (hkept : p.CrosshairKept faults.crosshair s.crosshair.text) (h : p.Sound log) :
    (p.pass s faults).1.Sound (log ++ (p.pass s faults).2) ∧
      (p.HasRanks → (p.pass s faults).1.HasRanks) := by
  unfold pass
  dsimp only
  have tname := touches_reconcileName p s faults.name
  have hname := tname.sound (keeps_writeName p s.name.text faults.name).guarded h
  generalize p.reconcileName s faults.name = named at tname hname ⊢
  have tsid := touches_reconcileSid named.1 s faults.steamId
  have hsid := tsid.sound (keeps_reconcileSid named.1 s faults.steamId) hname
  generalize named.1.writeVisible s faults.steamId .steamId = numbered at tsid hsid ⊢
  -- the name and the SteamID left the crosshair and its cache alone
  have hkept' : numbered.1.CrosshairKept faults.crosshair s.crosshair.text := by
    intro hfault happlied
    rw [tsid.applied (by decide), tname.applied (by decide)] at happlied
    exact (tsid.shows .crosshair (by decide) s).mpr
      ((tname.shows .crosshair (by decide) s).mpr (hkept hfault happlied))
  have tcross := touches_reconcileCrosshair numbered.1 s faults.crosshair
  have hcross := tcross.sound
    (keeps_writeCrosshair numbered.1 s.crosshair.text faults.crosshair hkept').guarded hsid
  generalize numbered.1.reconcileCrosshair s faults.crosshair = crossed at tcross hcross ⊢
  have tflair := touches_reconcileFlair crossed.1 s faults.scoreboardFlair
  refine ⟨?_, fun hranks => tflair.ranks (tcross.ranks (tsid.ranks (tname.ranks hranks)))⟩
  rw [← List.append_assoc, ← List.append_assoc, ← List.append_assoc]
  exact tflair.sound
    (keeps_writeFlair crossed.1 s.scoreboardFlair faults.scoreboardFlair).guarded hcross

/-- Behind a pass that throws nowhere every field is as in the snapshot and nothing is owed. -/
theorem settled_pass (p : Panel) (s : SlotSnapshot) (hranks : p.HasRanks) (h : p.Sound log)
    (f : Shown) : (p.pass s {}).1.Settled (log ++ (p.pass s {}).2) s f := by
  unfold pass
  dsimp only
  have tname := touches_reconcileName p s none
  have sname := settles_reconcileName p s
  generalize p.reconcileName s none = named at tname sname ⊢
  have hname := tname.sound sname.keeps h
  have tsid := touches_reconcileSid named.1 s none
  have ssid := settles_reconcileSid named.1 s
  generalize named.1.writeVisible s none .steamId = numbered at tsid ssid ⊢
  have hsid := tsid.sound ssid.keeps hname
  have tcross := touches_reconcileCrosshair numbered.1 s none
  have scross := settles_reconcileCrosshair numbered.1 s
  generalize numbered.1.reconcileCrosshair s none = crossed at tcross scross ⊢
  have hcross := tcross.sound scross.keeps hsid
  have tflair := touches_reconcileFlair crossed.1 s none
  have sflair := settles_reconcileFlair (tcross.ranks (tsid.ranks (tname.ranks hranks))) s
  rw [← List.append_assoc, ← List.append_assoc, ← List.append_assoc]
  -- each part settles its own field and leaves the ones before it settled
  refine tflair.settled hcross sflair ?_
  by_cases hflair : f = .flair
  · exact Or.inl hflair
  refine Or.inr (tcross.settled hsid scross ?_)
  by_cases hcrosshair : f = .crosshair
  · exact Or.inl hcrosshair
  refine Or.inr (tsid.settled hname ssid ?_)
  by_cases hsteamId : f = .steamId
  · exact Or.inl hsteamId
  refine Or.inr (tname.settled h sname (Or.inl ?_))
  cases f <;> first | rfl | exact absurd rfl ‹_›

end Panel

/-! ## Runs -/

/-- The event may write the slot's fields: a pass over the slot, or a queued action. -/
def Event.Presents (slot : Slot) : Event → Prop
  | .applyManagedSlot t _ => t = slot
  | .runNextFrame _ => True
  | _ => False

/-- What an event does to the fields of a slot's controller, in a lifetime. -/
def World.effects (w : World) (slot : Slot) : Event → Effects
  | .applyManagedSlot t faults =>
    if t = slot then
      match w.panel slot, w.readSlot slot.val with
      | some p, some s => (p.pass s faults).2
      | _, _ => []
    else []
  | .runNextFrame fault =>
    match w.panel slot, w.dueWrite slot with
    | some p, some (s, field) => (p.writeVisible s fault field).2
    | _, _ => []
  | _ => []

/-- A world, and what the managed client did to a slot's controller on the way there. -/
structure Presentation where
  world : World
  log : Effects

namespace Presentation

variable (slot : Slot) (incarnation : UInt64)

def step (s : Presentation) (e : Event) : Presentation where
  world := s.world.step e
  log := s.log ++ s.world.effects slot e

/-- What is promised of a run: whatever else happens to the world, the slot stays in its
lifetime, with a valid player that has ranks, and its caches are not reset. -/
def Lives (s : Presentation) (e : Event) : Prop :=
  ¬ e.Presents slot → (s.world.step e).Live slot incarnation ∧
    ∀ p p', s.world.panel slot = some p → (s.world.step e).panel slot = some p' →
      p' = { p with player := p'.player }

/-- What keeps the crosshair's changes in view: its notification does not throw while the code
that is kept as applied goes over another one, and while a notification is owed, nothing else
sets the field to that code. -/
def CrosshairKept (s : Presentation) : Event → Prop
  | .applyManagedSlot t faults =>
    if t = slot then
      ∀ p snapshot, s.world.panel slot = some p → s.world.readSlot slot.val = some snapshot →
        p.CrosshairKept faults.crosshair snapshot.crosshair.text
    else Overwritten s (.applyManagedSlot t faults)
  | .runNextFrame fault =>
    ∀ p snapshot code, s.world.panel slot = some p →
      s.world.dueWrite slot = some (snapshot, .crosshair code) → p.CrosshairKept fault code
  | e => Overwritten s e
where
  Overwritten (s : Presentation) (e : Event) : Prop :=
    Notice.owed .crosshair false s.log = true → ∀ p, (s.world.step e).panel slot = some p →
      p.player.crosshairCodes ≠ p.appliedCrosshair

/-! ## Step and run -/

/-- The slot is in its lifetime, and every notification owed of its fields is remembered. -/
def Good (s : Presentation) : Prop :=
  s.world.Live slot incarnation ∧ ∃ p, s.world.panel slot = some p ∧ p.Sound s.log

variable {slot incarnation} {s : Presentation} {e : Event}

theorem readSlot_of_stage {w w' : World} (h : w'.stage = w.stage) (slot : Int) :
    w'.readSlot slot = w.readSlot slot :=
  (congrArg (fun w => w.readSlot slot) h : w'.stage.readSlot slot = w.stage.readSlot slot)

theorem good_pass (h : Good slot incarnation s) (faults : World.SlotFaults)
    (hkept : CrosshairKept slot s (.applyManagedSlot slot faults)) :
    Good slot incarnation (step slot s (.applyManagedSlot slot faults)) := by
  obtain ⟨hlive, p, hp, hsound⟩ := h
  obtain ⟨snapshot, hsnapshot, -⟩ := hlive.seen
  have hworld : s.world.step (.applyManagedSlot slot faults) =
      s.world.withPanel slot (p.pass snapshot faults).1 :=
    hlive.applyManagedSlot_eq hsnapshot hp faults
  have hlog : s.world.effects slot (.applyManagedSlot slot faults) =
      (p.pass snapshot faults).2 := by
    unfold World.effects
    dsimp only
    rw [if_pos rfl, hp, hsnapshot]
  unfold CrosshairKept at hkept
  dsimp only at hkept
  rw [if_pos rfl] at hkept
  obtain ⟨hpass, hranks⟩ := p.sound_pass snapshot faults (hkept p snapshot hp hsnapshot) hsound
  obtain ⟨q, hq, hqranks⟩ := hlive.player
  obtain rfl : p = q := Option.some.inj (hp.symm.trans hq)
  unfold Good step
  rw [hworld, hlog]
  exact ⟨⟨hlive.seen, hlive.observed, hlive.lifetime, _, World.panel_withPanel .., hranks hqranks⟩,
    _, World.panel_withPanel .., hpass⟩

theorem good_frame (h : Good slot incarnation s) (fault : Option Nat)
    (hkept : CrosshairKept slot s (.runNextFrame fault)) :
    Good slot incarnation (step slot s (.runNextFrame fault)) := by
  obtain ⟨hlive, p, hp, hsound⟩ := h
  obtain ⟨hpanel, hobserved⟩ := hlive.panel_runNextFrame hp fault
  obtain ⟨q, hq, hranks⟩ := hlive.player
  obtain rfl : p = q := Option.some.inj (hp.symm.trans hq)
  have hseen : (s.world.runNextFrame fault).readSlot slot.val = s.world.readSlot slot.val :=
    readSlot_of_stage (stage_runNextFrame s.world fault) slot.val
  have hafter : (World.afterWrite p fault (s.world.dueWrite slot)).Sound
      (s.log ++ s.world.effects slot (.runNextFrame fault)) ∧
      (World.afterWrite p fault (s.world.dueWrite slot)).HasRanks := by
    unfold World.effects
    rw [hp]
    cases hdue : s.world.dueWrite slot with
    | none => exact ⟨by rwa [List.append_nil], hranks⟩
    | some due =>
      obtain ⟨snapshot, field⟩ := due
      obtain ⟨hwrite, hwranks⟩ := p.sound_writeVisible snapshot fault field
        (fun code hcode => hkept p snapshot code hp (by rw [hdue, hcode])) hsound
      exact ⟨hwrite, hwranks hranks⟩
  obtain ⟨snapshot, hsnapshot, hsame⟩ := hlive.seen
  exact ⟨⟨⟨snapshot, hseen.trans hsnapshot, hsame⟩, hobserved, hlive.lifetime, _, hpanel,
    hafter.2⟩, _, hpanel, hafter.1⟩

theorem good_other (h : Good slot incarnation s) (hother : ¬ e.Presents slot)
    (hlives : Lives slot incarnation s e) (hover : CrosshairKept.Overwritten slot s e)
    (hlog : s.world.effects slot e = []) : Good slot incarnation (step slot s e) := by
  obtain ⟨-, p, hp, hsound⟩ := h
  obtain ⟨hlive, hcaches⟩ := hlives hother
  obtain ⟨q, hq, hranks⟩ := hlive.player
  refine ⟨hlive, q, hq, ?_⟩
  unfold step
  rw [hlog, List.append_nil]
  intro f howed
  have hremembers := hsound f howed
  have hsame := hcaches p q hp hq
  cases f with
  | crosshair => exact hover howed q hq
  | name =>
    rw [hsame]
    exact hremembers
  | steamId =>
    rw [hsame]
    exact hremembers
  | flair =>
    rw [hsame]
    exact hremembers

theorem good_step (h : Good slot incarnation s) (hlives : Lives slot incarnation s e)
    (hkept : CrosshairKept slot s e) : Good slot incarnation (step slot s e) := by
  by_cases hpresents : e.Presents slot
  · cases e with
    | applyManagedSlot t faults =>
      obtain rfl : t = slot := hpresents
      exact good_pass h faults hkept
    | runNextFrame fault => exact good_frame h fault hkept
    | _ => exact absurd hpresents id
  · cases e with
    | applyManagedSlot t faults =>
      have hne : t ≠ slot := hpresents
      unfold CrosshairKept at hkept
      dsimp only at hkept
      rw [if_neg hne] at hkept
      exact good_other h hpresents hlives hkept (if_neg hne)
    | runNextFrame fault => exact absurd trivial hpresents
    | _ => exact good_other h hpresents hlives hkept rfl

/-- Every promised run that keeps the crosshair's changes in view stays in order. -/
theorem good_run (h : Good slot incarnation s) {es : List Event}
    (hrun : Runs.Admits (step slot)
      (fun s e => Lives slot incarnation s e ∧ CrosshairKept slot s e) s es) :
    Good slot incarnation (Runs.exec (step slot) s es) :=
  Runs.exec_invariant h (fun _ _ hgood hok => good_step hgood hok.1 hok.2) hrun

/-- A slot's fields are as in the snapshot, and a notification of each has followed its last
change. -/
def Announced (slot : Slot) (s : Presentation) : Prop :=
  ∃ snapshot p, s.world.readSlot slot.val = some snapshot ∧ s.world.panel slot = some p ∧
    ∀ f, p.Shows snapshot f ∧ Notice.Settled f s.log

end Presentation

/-- **Notifications.** In every run of one lifetime whose steps keep the crosshair's changes in
view, a pass that throws nowhere leaves every field as in the snapshot, and a notification has
followed each change of a field. -/
theorem presentation_notified (slot : Slot) (incarnation : UInt64) (w : World) (es : List Event)
    (hlive : w.Live slot incarnation)
    (hrun : Runs.Admits (Presentation.step slot) (fun s e =>
      Presentation.Lives slot incarnation s e ∧ Presentation.CrosshairKept slot s e) ⟨w, []⟩ es) :
    (Runs.exec (Presentation.step slot) ⟨w, []⟩
      (es ++ [.applyManagedSlot slot {}])).Announced slot := by
  obtain ⟨q, hq, -⟩ := hlive.player
  have hgood : Presentation.Good slot incarnation ⟨w, []⟩ :=
    ⟨hlive, q, hq, fun f howed => nomatch howed⟩
  obtain ⟨hlive', p, hp, hsound⟩ := Presentation.good_run hgood hrun
  rw [Runs.exec_append]
  generalize Runs.exec (Presentation.step slot) ⟨w, []⟩ es = s at hlive' hp hsound ⊢
  obtain ⟨snapshot, hsnapshot, -⟩ := hlive'.seen
  obtain ⟨q', hq', hranks⟩ := hlive'.player
  obtain rfl : p = q' := Option.some.inj (hp.symm.trans hq')
  have hworld : s.world.step (.applyManagedSlot slot {}) =
      s.world.withPanel slot (p.pass snapshot {}).1 := hlive'.applyManagedSlot_eq hsnapshot hp {}
  have hlog : s.world.effects slot (.applyManagedSlot slot {}) = (p.pass snapshot {}).2 := by
    unfold World.effects
    dsimp only
    rw [if_pos rfl, hp, hsnapshot]
  refine ⟨snapshot, (p.pass snapshot {}).1, ?_, ?_, fun f => ?_⟩
  · exact (congrArg (fun w => w.readSlot slot.val) hworld).trans hsnapshot
  · exact (congrArg (fun w => w.panel slot) hworld).trans (World.panel_withPanel ..)
  · obtain ⟨hshows, howed⟩ := p.settled_pass snapshot hranks hsound f
    rw [← hlog] at howed
    exact ⟨hshows, Notice.settled_iff.mpr howed⟩

/-- A bot whose controller came with a crosshair of its own. -/
def strangeCrosshair : Player where
  playerName := ascii "Bob"
  steamId := 0
  crosshairCodes := ascii "X"
  ranks := some [0, 4]

/-- The bot is adopted, the managed client sees it, and then its player appears. -/
def presentedBot : World :=
  World.run smallServer [botConnects 0, .loadImpl true, .applyManagedSlot 0 {},
    .engine { twoBots with players := fun _ => some strangeCrosshair }]

theorem live_presentedBot : presentedBot.Live 0 6 where
  seen := ⟨_, (Option.some_get (by decide +kernel)).symm, by decide +kernel, by decide +kernel⟩
  observed := by decide +kernel
  lifetime := by decide
  player := ⟨presentedBot.panelWith 0 strangeCrosshair, rfl, 0, [4], rfl⟩

/-- A name whose notification threw is announced by the next pass. -/
theorem presentation_notified_retried :
    (Runs.exec (Presentation.step 0) ⟨presentedBot, []⟩
      [.applyManagedSlot 0 { name := some 1 }, .applyManagedSlot 0 {}]).Announced 0 :=
  presentation_notified 0 6 presentedBot [.applyManagedSlot 0 { name := some 1 }]
    live_presentedBot
    ⟨⟨fun hother => absurd rfl hother, fun _ _ _ _ hfault => nomatch hfault⟩, trivial⟩

/-- The first pass writes the pool's empty code over the strange one, and its notification
throws. The applied code is empty already, so no later pass notices. -/
theorem crosshair_never_announced :
    presentedBot.Live 0 6 ∧
      Runs.Admits (Presentation.step 0) (Presentation.Lives 0 6) ⟨presentedBot, []⟩
        [.applyManagedSlot 0 { crosshair := some 1 }] ∧
      ¬ (Runs.exec (Presentation.step 0) ⟨presentedBot, []⟩
        [.applyManagedSlot 0 { crosshair := some 1 }, .applyManagedSlot 0 {}]).Announced 0 := by
  refine ⟨live_presentedBot, ⟨fun hother => absurd rfl hother, trivial⟩, ?_⟩
  rintro ⟨snapshot, p, -, -, h⟩
  have howed := Notice.settled_iff.mp (h .crosshair).2
  revert howed
  decide +kernel

end BotHider.Model
