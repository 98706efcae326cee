import BotHider.Avatar.Flags

/-!
# BotHider — the override table converges

A level has one table, which holds no avatar when it begins. Requests and SteamIDs change
between passes, and any call of a pass may fail.

* `SweepTidy` — in the middle of a pass every avatar in the table has one slot to clean it
  up, and a slot whose record is done and up to date has what it wants.
* `InLevel.step` — every event of the level keeps this, with the changes of each slot's
  request counted since the last pass.
* `avatars_converge` — after a pass in which nothing fails the table is what is wanted.
-/

namespace BotHider.Model

open World AvatarOverrides Reconcile

variable {w w' : World} {addr : Nat}

/-! ## Tables of a new level -/

/-- The table holds no SteamID's key, and no data at index 0. -/
structure StringTable.Blank (table : StringTable) : Prop where
  keys : ∀ sid, sid ≠ 0 → table.findStringIndex (formatAvatarSteamId sid) = none
  index : ∀ entry, table.head? = some entry → entry.2 = []

theorem StringTable.Blank.sound {table : StringTable} (h : table.Blank) : table.Sound := by
  refine fun entry hentry => ⟨h.index entry hentry, fun sid hsid heq => ?_⟩
  cases table with
  | nil => cases hentry
  | cons first table =>
    obtain rfl := Option.some.inj hentry
    have hnone := h.keys sid hsid
    unfold StringTable.findStringIndex at hnone
    rw [List.findIdx?_cons, beq_iff_eq.mpr heq] at hnone
    cases hnone

theorem StringTable.blank_nil : StringTable.Blank [] := ⟨fun _ _ => rfl, fun _ h => by cases h⟩

/-! ## Passes -/

/-- In the middle of a pass: no avatar is without an owner, and a slot whose record is done
and up to date has what it wants. -/
structure SweepTidy (addr : Nat) (s : FakeClientManager × AvatarOverrides) : Prop where
  owned : (s.2.view addr).Owned []
  sound : (s.2.tables addr).Sound
  provided : ∀ t, (s.2.states t).processed = true → UpToDate t s → Provided addr t s

theorem sound_processSlot {s : FakeClientManager × AvatarOverrides}
    (h : (s.2.tables addr).Sound) (calls : Slot → TableCalls) (now : Nat) (slot : Slot) :
    ((processSlot calls now addr s slot).2.tables addr).Sound := by
  rcases processSlot_cases calls now addr s slot with ⟨hs, -⟩ | ⟨hw, -⟩
  · rwa [hs]
  · exact hw.sound h

/-- **Round lemma.** A slot's round keeps the table tidy. -/
theorem SweepTidy.processSlot {s : FakeClientManager × AvatarOverrides} (h : SweepTidy addr s)
    (hd : DistinctTargets s.1) (calls : Slot → TableCalls) (now : Nat) (slot : Slot) :
    SweepTidy addr (processSlot calls now addr s slot) := by
  have hpub := published_processSlot calls now addr s slot
  refine ⟨?_, sound_processSlot h.sound calls now slot, fun t hproc hup => ?_⟩
  · rcases processSlot_cases calls now addr s slot with ⟨hs, -⟩ | ⟨hw, -⟩
    · rw [hs]
      exact h.owned
    · exact h.owned.moves hw.moves
  · rcases processSlot_cases calls now addr s slot with ⟨hs, -⟩ | ⟨hw, -⟩
    · rw [hs] at hproc hup ⊢
      exact h.provided t hproc hup
    · rcases eq_or_ne t slot with rfl | hts
      · unfold Provided
        rw [hpub.avatarTarget, hpub.getAvatarRequest]
        exact hw.settled hproc
      · have hforget := hw.forget t hts
        unfold UpToDate at hup
        rw [hpub.avatarTarget, hpub.getAvatarRequest] at hup
        have hold : Provided addr t s := h.provided t
          ((congrArg AvatarRuntimeState.processed hforget).symm.trans hproc)
          ⟨(congrArg AvatarRuntimeState.sequence hforget).symm.trans hup.1,
            (congrArg AvatarRuntimeState.steamId hforget).symm.trans hup.2⟩
        exact hold.worked hw hpub h.owned.exclusive hd hts

/-! ## Between passes -/

/-- How often each slot's request changed from one world to the next: an event changes it at
most once. -/
def World.changes (w w' : World) (t : Slot) : Nat :=
  if (w'.manager.getAvatarRequest t).sequence = (w.manager.getAvatarRequest t).sequence then 0
  else 1

/-- Between passes: no avatar is without an owner, and a slot whose record is done has what
the record says, unless its request changed since. -/
structure World.Tidy (addr : Nat) (n : Slot → Nat) (w : World) : Prop where
  owned : (w.avatar.view addr).Owned []
  sound : (w.avatar.tables addr).Sound
  provided : ∀ t, (w.avatar.states t).processed = true →
    (w.avatar.states t).sequence + UInt32.ofNat (n t) = (w.manager.getAvatarRequest t).sequence ∧
      (n t = 0 → (w.avatar.view addr).Settled t (someSteamId (w.avatar.states t).steamId)
        (w.manager.getAvatarRequest t).data)

/-- The table of the level is tidy, or was not seen yet. -/
def World.Converging (addr : Nat) (n : Slot → Nat) (w : World) : Prop :=
  (w.avatar.lastAvatarTable = some addr ∧ w.Tidy addr n) ∨
    (w.avatar.lastAvatarTable ≠ some addr ∧ (w.avatar.tables addr).Blank)

variable {n : Slot → Nat}

/-- An event between passes changes some requests. -/
theorem World.Converging.of_stirs (h : w.Converging addr n) (hs : w.Stirs w') :
    w'.Converging addr fun t => n t + w.changes w' t := by
  rcases h with ⟨hlast, htidy⟩ | ⟨hlast, hblank⟩
  · refine Or.inl ⟨by rw [hs.avatar, hlast], ⟨?_, ?_, fun t hproc => ?_⟩⟩
    · rw [hs.avatar]
      exact htidy.owned
    · rw [hs.avatar]
      exact htidy.sound
    · rw [hs.avatar] at hproc ⊢
      obtain ⟨hseq, hsettled⟩ := htidy.provided t hproc
      unfold World.changes
      rcases hs.slots t with ⟨hreq, -, -⟩ | ⟨hnew, -⟩
      · have hreq : w'.manager.getAvatarRequest t = w.manager.getAvatarRequest t := hreq
        rw [if_pos (congrArg AvatarRequest.sequence hreq), hreq]
        exact ⟨hseq, hsettled⟩
      · have hnew : (w'.manager.getAvatarRequest t).sequence =
            (w.manager.getAvatarRequest t).sequence + 1 := hnew
        have hne : (w'.manager.getAvatarRequest t).sequence ≠
            (w.manager.getAvatarRequest t).sequence := by
          rw [hnew]
          simp
        rw [if_neg hne]
        refine ⟨?_, fun h0 => absurd h0 (Nat.succ_ne_zero _)⟩
        rw [hnew, ← hseq, UInt32.ofNat_add, UInt32.add_assoc]
        rfl
  · refine Or.inr ?_
    rw [hs.avatar]
    exact ⟨hlast, hblank⟩

/-- A pass starts on a tidy table: a record that is done and up to date has not missed a
change, as fewer than `2^32` of them happened. -/
theorem World.Converging.noteTable (h : w.Converging addr n) (hn : ∀ t, n t < 2 ^ 32) :
    SweepTidy addr (w.avatar.noteTable w.manager addr) := by
  unfold AvatarOverrides.noteTable
  rcases h with ⟨hlast, htidy⟩ | ⟨hlast, hblank⟩
  · rw [if_pos hlast]
    refine ⟨htidy.owned, htidy.sound, fun t hproc hup => ?_⟩
    obtain ⟨hseq, hsettled⟩ := htidy.provided t hproc
    have hsame : (w.avatar.states t).sequence + UInt32.ofNat (n t) =
        (w.avatar.states t).sequence := hseq.trans hup.1.symm
    have h0 : n t = 0 := by
      have hof : UInt32.ofNat (n t) = 0 := by simpa using hsame
      have hnat := congrArg UInt32.toNat hof
      rw [UInt32.toNat_ofNat', Nat.mod_eq_of_lt (hn t)] at hnat
      exact hnat
    unfold Provided
    rw [← hup.2]
    exact hsettled h0
  · rw [if_neg hlast]
    refine ⟨⟨fun s t k hs => ?_, fun sid hsid => ?_⟩, hblank.sound, fun t hproc => ?_⟩
    · cases hs
    · refine absurd ?_ hsid
      change (if sid = 0 then [] else (w.avatar.tables addr).data _) = []
      split
      · rfl
      · exact StringTable.data_of_not_found (hblank.keys sid ‹_›)
    · cases hproc

/-- What a pass over the level's table leaves. -/
theorem World.Converging.sweep (h : w.Converging addr n) (hn : ∀ t, n t < 2 ^ 32)
    (hg : w.registry.Good) (pass : PassEnv) :
    SweepTidy addr (w.sweep pass addr) ∧ (w.sweep pass addr).2.lastAvatarTable = some addr := by
  obtain ⟨hs, -, hlast⟩ := sweep_invariant
    (P := fun s => SweepTidy addr s ∧ DistinctTargets s.1 ∧ s.2.lastAvatarTable = some addr)
    w pass addr ⟨h.noteTable hn,
      (published_noteTable w.avatar w.manager addr).distinct (distinctTargets_of_good hg),
      last_noteTable w.avatar w.manager addr⟩
    fun s slot ⟨hs, hds, hlast⟩ => ⟨hs.processSlot hds pass.calls pass.now slot,
      (published_processSlot pass.calls pass.now addr s slot).distinct hds,
      (last_processSlot pass.calls pass.now addr s slot).trans hlast⟩
  exact ⟨hs, hlast⟩

/-- **Pass lemma.** A pass over the level's table keeps it tidy. -/
theorem World.Converging.processOverrides (h : w.Converging addr n) (hn : ∀ t, n t < 2 ^ 32)
    (hg : w.registry.Good) {pass : PassEnv} (hfound : pass.found = none ∨ pass.found = some addr) :
    (w.processOverrides pass).Converging addr
      (if w.avatar.networkStringTables = true ∧ pass.found.isSome then fun _ => 0 else n) := by
  rcases processOverrides_cases w pass with ⟨addr', htables, hsome, hw⟩ | ⟨hno, hw⟩
  · rcases hfound with hnone | hfound
    · rw [hnone] at hsome
      cases hsome
    obtain rfl := Option.some.inj (hfound.symm.trans hsome)
    obtain ⟨hs, hlast⟩ := h.sweep hn hg pass
    have hup := upToDate_sweep w pass addr
    rw [hw, if_pos ⟨htables, by rw [hsome]; rfl⟩]
    generalize w.sweep pass addr = s at hs hlast hup ⊢
    refine Or.inl ⟨hlast, hs.owned, hs.sound, fun t hproc => ⟨?_, fun _ => ?_⟩⟩
    · exact (UInt32.add_zero _).trans (hup t).1
    · have hprov := hs.provided t hproc (hup t)
      unfold Provided at hprov
      rwa [← (hup t).2] at hprov
  · have hneg : ¬ (w.avatar.networkStringTables = true ∧ pass.found.isSome = true) := by
      rintro ⟨htables, hsome⟩
      rcases hno with hno | hno
      · rw [hno] at htables
        cases htables
      · rw [hno] at hsome
        cases hsome
    rw [hw, if_neg hneg]
    exact h

/-! ## Levels -/

/-- The pass an event makes. -/
def Event.pass : Event → Option PassEnv
  | .processOverrides env => some env
  | .startChangeLevel env => some env
  | _ => none

/-- The event makes a pass that finds a table. -/
def World.sweeps (w : World) (e : Event) : Prop :=
  w.avatar.networkStringTables = true ∧ (e.pass.bind PassEnv.found).isSome

instance (w : World) (e : Event) : Decidable (w.sweeps e) := inferInstanceAs (Decidable (_ ∧ _))

/-- A world, and how often each slot's request changed since the last pass. -/
abbrev Tallied := World × (Slot → Nat)

/-- The tally when an event's own changes are in, but its pass is still to come. -/
def Tallied.pending (x : Tallied) (e : Event) (t : Slot) : Nat :=
  x.2 t + x.1.changes (x.1.step e) t

def Tallied.step (x : Tallied) (e : Event) : Tallied :=
  (x.1.step e, if x.1.sweeps e then fun _ => 0 else x.pending e)

/-- The event belongs to the level whose table is at the address: passes find that table or
none, and nobody but the plugin writes it. -/
def World.KeepsLevel (addr : Nat) (w : World) : Event → Prop
  | .tables tables => tables addr = w.avatar.tables addr
  | .processOverrides env => env.found = none ∨ env.found = some addr
  | .startChangeLevel env => env.found = none ∨ env.found = some addr
  | .levelInit _ => False
  | .levelShutdown _ => False
  | _ => True

/-- The level goes on, and fewer than `2^32` changes of a slot's request come between two
passes. -/
def Tallied.InLevel (addr : Nat) (x : Tallied) (e : Event) : Prop :=
  x.1.KeepsLevel addr e ∧ ∀ t, x.pending e t < 2 ^ 32

theorem getAvatarRequest_processOverrides (w : World) (pass : PassEnv) (t : Slot) :
    (w.processOverrides pass).manager.getAvatarRequest t = w.manager.getAvatarRequest t :=
  (published_processOverrides w.avatar w.manager pass.found pass.calls pass.now).getAvatarRequest t

theorem changes_of_request {t : Slot}
    (h : w'.manager.getAvatarRequest t = w.manager.getAvatarRequest t) : w.changes w' t = 0 :=
  if_pos (congrArg AvatarRequest.sequence h)

/-- The invariant of a level. -/
structure Tallied.Good (addr : Nat) (x : Tallied) : Prop where
  sane : x.1.Sane
  converging : x.1.Converging addr x.2
  tally : ∀ t, x.2 t < 2 ^ 32

/-- **Step lemma.** Every event of the level keeps its table converging. -/
theorem Tallied.Good.step {x : Tallied} (h : x.Good addr) {e : Event} (he : x.InLevel addr e) :
    (x.step e).Good addr := by
  obtain ⟨w, n⟩ := x
  obtain ⟨hs, hconv, hn⟩ := h
  obtain ⟨hkeep, hpend⟩ := he
  have htally : ∀ t, (if w.sweeps e then fun _ => 0 else Tallied.pending (w, n) e) t < 2 ^ 32 := by
    intro t
    split
    · exact Nat.two_pow_pos 32
    · exact hpend t
  refine ⟨hs.step e, ?_, htally⟩
  change (w.step e).Converging addr (if w.sweeps e then fun _ => 0 else Tallied.pending (w, n) e)
  cases hp : e.passes with
  | false =>
    have hno : ¬ w.sweeps e := by
      rintro ⟨-, h⟩
      cases e <;> first | cases h | cases hp
    rw [if_neg hno]
    exact hconv.of_stirs (stirs_step hs hp)
  | true =>
    cases e with
    | tables tables =>
      have hno : ¬ w.sweeps (.tables tables) := fun h => by cases h.2
      have hzero : Tallied.pending (w, n) (.tables tables) = n :=
        funext fun t => congrArg (n t + ·) (changes_of_request rfl)
      rw [if_neg hno, hzero]
      have hview : AvatarOverrides.view { w.avatar with tables := tables } addr =
          w.avatar.view addr := by
        unfold AvatarOverrides.view
        dsimp only
        rw [hkeep]
      rcases hconv with ⟨hlast, htidy⟩ | ⟨hlast, hblank⟩
      · refine Or.inl ⟨hlast, hview ▸ htidy.owned, ?_, fun t hproc => ?_⟩
        · exact (congrArg StringTable.Sound hkeep).mpr htidy.sound
        · exact ⟨(htidy.provided t hproc).1, fun h0 => hview ▸ (htidy.provided t hproc).2 h0⟩
      · exact Or.inr ⟨hlast, (congrArg StringTable.Blank hkeep).mpr hblank⟩
    | processOverrides pass =>
      have hzero : Tallied.pending (w, n) (.processOverrides pass) = n := funext fun t =>
        congrArg (n t + ·) (changes_of_request (getAvatarRequest_processOverrides w pass t))
      rw [hzero]
      exact hconv.processOverrides hn hs.good hkeep
    | startChangeLevel pass =>
      -- every slot's request is given up before the pass
      let v := (w.withEngine (restoreManagedClients w.manager w.engine)).releaseAll
      have hstirs : w.Stirs v := ⟨rfl, (leases_releaseAll (w.withEngine _)).hop.stirred⟩
      have hpending : Tallied.pending (w, n) (.startChangeLevel pass) =
          fun t => n t + w.changes v t := by
        funext t
        unfold Tallied.pending World.changes
        dsimp only
        rw [show w.step (.startChangeLevel pass) = v.processOverrides pass from rfl,
          getAvatarRequest_processOverrides]
      rw [hpending]
      refine (hconv.of_stirs hstirs).processOverrides (fun t => ?_)
        (hs.good.path (leases_releaseAll (w.withEngine _)).path) hkeep
      have hlt := hpend t
      rw [hpending] at hlt
      exact hlt
    | levelInit gate => exact absurd hkeep id
    | levelShutdown env => exact absurd hkeep id
    | _ => cases hp

/-- **Run lemma.** So does the whole level. -/
theorem Tallied.Good.exec {x : Tallied} (h : x.Good addr) {es : List Event}
    (hes : Runs.Admits Tallied.step (Tallied.InLevel addr) x es) :
    (Runs.exec Tallied.step x es).Good addr :=
  Runs.exec_invariant h (fun _ _ hx he => hx.step he) hes

theorem exec_tallied (x : Tallied) (es : List Event) :
    (Runs.exec Tallied.step x es).1 = Runs.exec World.step x.1 es :=
  Runs.exec_view Prod.fst (fun _ _ => rfl) x es

/-! ## The last pass -/

/-- A pass over the level's table in which no call fails and no slot waits for its retry
delay. -/
structure World.CleanPass (w : World) (addr : Nat) (pass : PassEnv) : Prop where
  container : w.avatar.networkStringTables = true
  found : pass.found = some addr
  calls : ∀ s, pass.calls s = {}
  due : ∀ s,
    let state := ((w.avatar.noteTable w.manager addr).2.states s).refresh
      (w.manager.getAvatarRequest s).sequence (w.manager.avatarTarget s)
    state.processed = true ∨ state.retryAt ≤ pass.now

/-- After such a pass every slot's record is done. -/
theorem World.CleanPass.processed {pass : PassEnv} (h : w.CleanPass addr pass)
    (hsound : ((w.avatar.noteTable w.manager addr).2.tables addr).Sound) (t : Slot) :
    ((w.sweep pass addr).2.states t).processed = true := by
  obtain ⟨s, ⟨hs, hpub⟩, hbefore, hafter⟩ := Sweep.foldl_view
    (p := fun s : FakeClientManager × AvatarOverrides =>
      (s.2.tables addr).Sound ∧ Published w.manager s.1)
    (v := fun (s : FakeClientManager × AvatarOverrides) t => (s.2.states t).forget)
    (fun s slot ⟨hs, hpub⟩ => ⟨sound_processSlot hs pass.calls pass.now slot,
      hpub.trans (published_processSlot pass.calls pass.now addr s slot)⟩)
    (fun s slot t _ hst => forget_processSlot_of_ne pass.calls pass.now addr s (Ne.symm hst))
    allSlots_nodup (mem_allSlots t)
    ⟨hsound, published_noteTable w.avatar w.manager addr⟩
  rw [World.sweep, AvatarRuntimeState.processed_congr hafter]
  rcases processSlot_cases pass.calls pass.now addr s t with ⟨heq, hseq, hsid, hwait⟩ | ⟨-, hdone⟩
  · -- the round was skipped: not for the delay, so the record was done already
    rw [heq]
    have hdue := h.due t
    dsimp only at hdue
    have hforget : (((w.avatar.noteTable w.manager addr).2.states t).refresh
        (w.manager.getAvatarRequest t).sequence (w.manager.avatarTarget t)).forget =
        (s.2.states t).forget := by
      rw [refresh_forget, ← hbefore, ← refresh_forget, ← hpub.getAvatarRequest, ← hpub.avatarTarget,
        ← hseq, ← hsid]
      unfold AvatarRuntimeState.refresh
      rw [if_neg (by simp)]
    rw [AvatarRuntimeState.processed_congr hforget, AvatarRuntimeState.retryAt_congr hforget] at hdue
    rcases hdue with hdue | hdue
    · exact hdue
    · rw [Bool.or_eq_true, decide_eq_true_eq] at hwait
      rcases hwait with hwait | hwait
      · exact hwait
      · exact absurd hwait (Nat.not_lt.mpr hdue)
  · exact hdone hs (h.calls t)

/-! ## The table -/

/-- The SteamID is the current one of a managed slot, whose nonempty request belongs to its
current incarnation. -/
def World.Wants (w : World) (s : Slot) (sid : UInt64) : Prop :=
  w.manager.isManaged s = true ∧ w.manager.getSyntheticSid s = sid ∧
    (w.manager.getAvatarRequest s).data ≠ [] ∧
    (w.manager.getAvatarRequest s).incarnation = w.manager.getIncarnation s

/-- The pass goes by what is wanted. -/
theorem someSteamId_avatarTarget (hg : w.registry.Good) (s : Slot) (sid : UInt64) :
    someSteamId (w.manager.avatarTarget s) = some sid ↔ w.Wants s sid := by
  have hc := hg.coupled s
  have hlength : (w.manager.getAvatarRequest s).length > 0 ↔
      (w.manager.getAvatarRequest s).data ≠ [] := by
    have hle : (w.manager.getAvatarRequest s).data.length ≤ kAvatarMaxBytes := hc.size
    have hlt : kAvatarMaxBytes < 2 ^ 32 := by decide
    rw [show (w.manager.getAvatarRequest s).length =
      UInt32.ofNat (w.manager.getAvatarRequest s).data.length from hc.length, gt_iff_lt,
      UInt32.lt_iff_toNat_lt, UInt32.toNat_ofNat', Nat.mod_eq_of_lt (by omega), UInt32.toNat_zero,
      List.length_pos_iff]
  have hcur : w.manager.currentRequest s = true ↔ w.manager.isManaged s = true ∧
      (w.manager.getAvatarRequest s).data ≠ [] ∧
      (w.manager.getAvatarRequest s).incarnation = w.manager.getIncarnation s := by
    unfold FakeClientManager.currentRequest
    simp only [Bool.and_eq_true, decide_eq_true_eq, hlength]
    refine ⟨fun ⟨hm, hd, _, hi⟩ => ⟨hm, hd, hi⟩, fun ⟨hm, hd, hi⟩ => ⟨hm, hd, ?_, hi⟩⟩
    rw [hi]
    exact hc.incarnation.mp hm
  have hsid : w.manager.isManaged s = true → w.manager.getSyntheticSid s ≠ 0 := hc.steamId
  unfold FakeClientManager.avatarTarget World.Wants
  split
  · rename_i h
    have hw := hcur.mp h
    rw [someSteamId_of_ne (hsid hw.1), Option.some.injEq]
    exact ⟨fun heq => ⟨hw.1, heq, hw.2⟩, fun h => h.2.1⟩
  · rename_i h
    refine ⟨fun h0 => (by cases h0), fun hw => absurd (hcur.mpr ⟨hw.1, hw.2.2⟩) h⟩

/-- A clean pass over a converging table leaves what is wanted in it. -/
theorem World.Converging.cleanPass (h : w.Converging addr n) (hn : ∀ t, n t < 2 ^ 32)
    (hs : w.Sane) {pass : PassEnv} (hclean : w.CleanPass addr pass) {sid : UInt64} (hsid : sid ≠ 0) :
    (((w.processOverrides pass).avatar.tables addr).data (formatAvatarSteamId sid) ≠ [] ↔
      ∃ s, (w.processOverrides pass).Wants s sid) ∧
    ∀ s, (w.processOverrides pass).Wants s sid →
      ((w.processOverrides pass).avatar.tables addr).data (formatAvatarSteamId sid) =
        ((w.processOverrides pass).manager.getAvatarRequest s).data := by
  have hg : (w.processOverrides pass).registry.Good := hs.good.path (path_processOverrides w pass)
  have hwants := someSteamId_avatarTarget hg
  obtain ⟨hswept, -⟩ := h.sweep hn hs.good pass
  have hproc := hclean.processed (h.noteTable hn).sound
  have hup := upToDate_sweep w pass addr
  obtain ⟨addr', -, hfound, hw⟩ | ⟨hno, -⟩ := processOverrides_cases w pass
  · obtain rfl := Option.some.inj (hclean.found.symm.trans hfound)
    rw [hw] at hwants ⊢
    generalize w.sweep pass addr = v at hswept hproc hup hwants ⊢
    have hsettled : ∀ t, Provided addr t v := fun t => hswept.provided t (hproc t) (hup t)
    have hstore : (v.2.view addr).store sid =
        (v.2.tables addr).data (formatAvatarSteamId sid) := if_neg hsid
    dsimp only at hwants ⊢
    rw [← hstore]
    constructor
    · rw [State.store_ne_empty_iff hswept.owned hsettled
        fun t k hk => ((hwants t k).mp hk).2.2.1]
      exact exists_congr fun t => hwants t sid
    · exact fun t ht => (hsettled t).store sid ((hwants t sid).mpr ht)
  · rcases hno with hno | hno
    · rw [hclean.container] at hno
      cases hno
    · rw [hclean.found] at hno
      cases hno

/-- **The table converges.** Take any reachable world that has not yet seen the table of the
level, which holds no SteamID's key and has no data at index 0, and any run of the level
in which fewer than `2^32` changes of a slot's request come between two passes; its passes
may fail in any way. After one more pass in which no call fails and no slot waits for its
retry delay, the key of a SteamID holds data exactly when a managed slot with that SteamID
has a nonempty request of its current incarnation, and then it holds the request. -/
theorem avatars_converge (env : LoadEnv) (es es' : List Event) (addr : Nat)
    (hunseen : (World.run env es).avatar.lastAvatarTable ≠ some addr)
    (hblank : ((World.run env es).avatar.tables addr).Blank)
    (hlevel : Runs.Admits Tallied.step (Tallied.InLevel addr) (World.run env es, fun _ => 0) es')
    (pass : PassEnv) (hclean : (World.run env (es ++ es')).CleanPass addr pass)
    (sid : UInt64) (hsid : sid ≠ 0) :
    ((((World.run env (es ++ es')).processOverrides pass).avatar.tables addr).data
        (formatAvatarSteamId sid) ≠ [] ↔
      ∃ s, ((World.run env (es ++ es')).processOverrides pass).Wants s sid) ∧
    ∀ s, ((World.run env (es ++ es')).processOverrides pass).Wants s sid →
      (((World.run env (es ++ es')).processOverrides pass).avatar.tables addr).data
          (formatAvatarSteamId sid) =
        (((World.run env (es ++ es')).processOverrides pass).manager.getAvatarRequest s).data := by
  have hstart : Tallied.Good addr (World.run env es, fun _ => 0) :=
    ⟨sane_run env es, Or.inr ⟨hunseen, hblank⟩, fun _ => Nat.two_pow_pos 32⟩
  have hend := hstart.exec hlevel
  have hworld : (Runs.exec Tallied.step (World.run env es, fun _ => 0) es').1 =
      World.run env (es ++ es') := by
    rw [exec_tallied, World.run, World.run, Runs.exec_append]
  have hconv := hend.converging
  have hsane := hend.sane
  rw [hworld] at hconv hsane
  exact hconv.cleanPass hend.tally hsane hclean hsid

/-- A bot is given an avatar, and the first pass over table `7` fails to write it. -/
def failsAvatar : List Event :=
  [botConnects 0, .bhAttach, .bhSetAvatar 0 6 (some tinyPng) 58 true,
    .processOverrides { found := some 7, calls := fun _ => { add := false }, now := 0 }]

/-- The pass a second later. -/
def latePass : PassEnv := { found := some 7, calls := fun _ => {}, now := kRetryDelay }

theorem inLevel_failsAvatar : Runs.Admits Tallied.step (Tallied.InLevel 7)
    (World.run smallServer [], fun _ => 0) failsAvatar :=
  ⟨⟨trivial, by decide +kernel⟩, ⟨trivial, by decide +kernel⟩, ⟨trivial, by decide +kernel⟩,
    ⟨Or.inr rfl, by decide +kernel⟩, trivial⟩

theorem avatars_converge_retried :
    ∃ s, ((World.run smallServer ([] ++ failsAvatar)).processOverrides latePass).Wants s
      76561197960266729 := by
  have htable : (World.run smallServer []).avatar.tables 7 = [] := by decide +kernel
  have hclean : (World.run smallServer ([] ++ failsAvatar)).CleanPass 7 latePass :=
    ⟨by decide +kernel, rfl, fun _ => rfl, by decide +kernel⟩
  exact ((avatars_converge smallServer [] failsAvatar 7 (by decide +kernel)
    (htable ▸ StringTable.blank_nil) inLevel_failsAvatar latePass hclean 76561197960266729
    (by decide)).1).mp (by decide +kernel)

end BotHider.Model
