import BotHider.Avatar.Reads
import BotHider.Lib.Deferred

/-!
# BotHider — avatar commands and their reads

What a slot's request comes to is what the accepted commands of its lifetime come to
(`Deferred.effect`), where the outcome of a file is known once its read has finished.

* `Watch` — a world, and the reads whose bytes the native side could not take.
* `CommandsOk` — the invariant: a pending read is the last command of its slot's lifetime, or
  is no longer one of its commands that count.
-/

namespace BotHider.Model

open World

/-! ## What happened to the reads -/

/-- A command as the log has it. -/
def AvatarCommand.entry : AvatarCommand → Option Nat
  | .clear => none
  | .file id => some id

/-- The accepted commands of a slot's lifetime. -/
def World.log (w : World) (s : Slot) : List (Option Nat) :=
  (w.journal.accepted s).map AvatarCommand.entry

/-- A world with the reads whose bytes were refused for want of memory. -/
structure Watch where
  world : World
  refused : Nat → Bool := fun _ => false

namespace Watch

/-- One round of `FinishAvatarReads`, watched. -/
def finish (alloc : Slot → Bool) (p : Watch) (slot : Slot) : Watch where
  world := p.world.finishAvatarRead (alloc slot) slot
  refused :=
    match (p.world.bridge.avatarReads slot).read with
    | none => p.refused
    | some task =>
      if task.result.isSome ∧ alloc slot = false then Function.update p.refused task.id true
      else p.refused

/-- One event, watched. -/
def step (p : Watch) : Event → Watch
  | .finishAvatarReads alloc => allSlots.foldl (finish alloc) p
  | e => { p with world := p.world.step e }

/-- What a read brought: the bytes, if there are any, they pass the native check and memory
for them could be had. -/
def outcome (p : Watch) (id : Nat) : Option Bytes :=
  (p.world.journal.results id).join.filter fun bytes =>
    hasPngStructure (some bytes) && !p.refused id

theorem world_step (p : Watch) (e : Event) : (p.step e).world = p.world.step e := by
  cases e with
  | finishAvatarReads alloc =>
    change (allSlots.foldl (finish alloc) p).world =
      allSlots.foldl (fun w slot => w.finishAvatarRead (alloc slot) slot) p.world
    generalize allSlots = slots
    induction slots generalizing p with
    | nil => rfl
    | cons slot slots ih => exact ih (finish alloc p slot)
  | _ => rfl

end Watch

/-- The slot has this read pending, or this read among its lifetime's commands. -/
def World.Mentions (w : World) (s : Slot) (id : Nat) : Prop :=
  some id ∈ w.log s ∨ ∃ task, (w.bridge.avatarReads s).read = some task ∧ task.id = id

/-! ## The invariant -/

/-- What is true of a slot. -/
structure SlotCommandsOk (p : Watch) (s : Slot) : Prop where
  started : ∀ id, p.world.Mentions s id → id < p.world.journal.reads
  task : ∀ task, (p.world.bridge.avatarReads s).read = some task →
    p.world.journal.results task.id = task.result ∧ p.refused task.id = false
  issued : ∀ task, (p.world.bridge.avatarReads s).read = some task →
    (p.world.bridge.avatarReads s).incarnation = 0 ∨
      (p.world.bridge.avatarReads s).incarnation ∈ p.world.journal.issued
  idle : p.world.manager.isManaged s = true → (p.world.bridge.avatarReads s).read = none →
    (p.world.manager.getAvatarRequest s).data = Deferred.effect [] p.outcome (p.world.log s)
  -- the pending read is the last command, and the request is what those before it come to
  last : p.world.manager.isManaged s = true →
    ∀ task, (p.world.bridge.avatarReads s).read = some task →
      (p.world.bridge.avatarReads s).incarnation = p.world.manager.getIncarnation s →
        ∃ before, p.world.log s = before ++ [some task.id] ∧ some task.id ∉ before ∧
          (p.world.manager.getAvatarRequest s).data = Deferred.effect [] p.outcome before
  -- the pending read no longer counts
  stale : p.world.manager.isManaged s = true →
    ∀ task, (p.world.bridge.avatarReads s).read = some task →
      (p.world.bridge.avatarReads s).incarnation ≠ p.world.manager.getIncarnation s →
        ¬ Deferred.Live (p.world.log s) task.id ∧
          (p.world.manager.getAvatarRequest s).data =
            Deferred.effect [] p.outcome (p.world.log s)

/-- What is true of a plugin whose bridge stays connected. -/
structure CommandsOk (p : Watch) : Prop where
  sane : p.world.Sane
  connected : p.world.bridge.client ≠ none → p.world.connected = true
  unstarted : p.world.bridge.client = none → p.world.journal.reads = 0
  fresh : ∀ id, p.world.journal.reads ≤ id →
    p.world.journal.results id = none ∧ p.refused id = false
  sized : ∀ id bytes, p.world.journal.results id = some (some bytes) →
    0 < bytes.length ∧ bytes.length ≤ kAvatarMaxBytes
  unique : ∀ s t id, p.world.Mentions s id → p.world.Mentions t id → s = t
  running : ∀ id, id < p.world.journal.reads → p.world.journal.results id = none →
    ∃ s task, (p.world.bridge.avatarReads s).read = some task ∧ task.id = id
  slots : ∀ s, SlotCommandsOk p s

variable {p p' : Watch} {s t : Slot}

/-- A slot about whose reads, commands and request nothing changes, or whose lifetime ends. -/
theorem SlotCommandsOk.frame (h : SlotCommandsOk p s)
    (hread : p'.world.bridge.avatarReads s = p.world.bridge.avatarReads s)
    (hlog : p'.world.journal.accepted s = p.world.journal.accepted s)
    (hreads : p.world.journal.reads ≤ p'.world.journal.reads)
    (hknown : ∀ id, p.world.Mentions s id →
      p'.world.journal.results id = p.world.journal.results id ∧ p'.refused id = p.refused id)
    (hissued : p.world.journal.issued <:+ p'.world.journal.issued)
    (hlife : (p.world.registry.holding s).Continues (p'.world.registry.holding s)) :
    SlotCommandsOk p' s := by
  have hlog' : p'.world.log s = p.world.log s := congrArg _ hlog
  have hmentions : ∀ id, p'.world.Mentions s id ↔ p.world.Mentions s id := by
    intro id
    unfold World.Mentions
    rw [hlog', hread]
  -- no read of the log changes its outcome
  have heffect : ∀ log, (∀ id, some id ∈ log → some id ∈ p.world.log s) →
      Deferred.effect [] p'.outcome log = Deferred.effect [] p.outcome log := by
    intro log hsub
    refine Deferred.effect_congr fun id hid => ?_
    obtain ⟨hres, href⟩ := hknown id (Or.inl (hsub id hid.mem))
    unfold Watch.outcome
    rw [hres, href]
  -- a slot that is managed now is in the lifetime it was in
  have hgo : p'.world.manager.isManaged s = true →
      p.world.manager.isManaged s = true ∧
        p'.world.manager.getIncarnation s = p.world.manager.getIncarnation s ∧
        p'.world.manager.getAvatarRequest s = p.world.manager.getAvatarRequest s := by
    intro hm
    rcases hlife with ⟨hm', hi, hr⟩ | hm'
    · exact ⟨hm'.symm.trans hm, hi, hr⟩
    · exact absurd (hm'.symm.trans hm) Bool.false_ne_true
  constructor
  case started => exact fun id hid => (h.started id ((hmentions id).mp hid)).trans_le hreads
  case task =>
    intro task htask
    rw [hread] at htask
    obtain ⟨hres, href⟩ := hknown task.id (Or.inr ⟨task, htask, rfl⟩)
    rw [hres, href]
    exact h.task task htask
  case issued =>
    intro task htask
    rw [hread] at htask ⊢
    exact (h.issued task htask).imp_right fun hmem => hissued.subset hmem
  case idle =>
    intro hm hnone
    obtain ⟨hm', -, hr⟩ := hgo hm
    rw [hread] at hnone
    rw [hr, hlog', heffect _ fun _ => id]
    exact h.idle hm' hnone
  case last =>
    intro hm task htask hinc
    obtain ⟨hm', hi, hr⟩ := hgo hm
    rw [hread] at htask hinc
    rw [hi] at hinc
    obtain ⟨before, hbefore, hmem, hdata⟩ := h.last hm' task htask hinc
    refine ⟨before, hlog'.trans hbefore, hmem, ?_⟩
    rw [hr, heffect before fun id hid => hbefore ▸ List.mem_append_left _ hid]
    exact hdata
  case stale =>
    intro hm task htask hinc
    obtain ⟨hm', hi, hr⟩ := hgo hm
    rw [hread] at htask hinc
    rw [hi] at hinc
    rw [hr, hlog', heffect _ fun _ => id]
    exact h.stale hm' task htask hinc

/-! ## Everything but the commands -/

theorem World.Sane.incarnation_ne_zero {w : World} (h : w.Sane)
    (hm : w.manager.isManaged s = true) : w.manager.getIncarnation s ≠ 0 :=
  (h.good.coupled s).incarnation.mp hm

theorem World.Sane.incarnation_eq_zero {w : World} (h : w.Sane)
    (hm : w.manager.isManaged s = false) : w.manager.getIncarnation s = 0 := by
  by_contra hne
  exact absurd ((h.good.coupled s).incarnation.mpr hne) (by
    rw [show (w.registry.holding s).managed = false from hm]
    exact Bool.false_ne_true)

/-- A slot that begins a lifetime: the read it still has pending belongs to an earlier one. -/
theorem SlotCommandsOk.begin {w' : World} (h : SlotCommandsOk p s) (hsane : w'.Sane)
    (hread : w'.bridge.avatarReads s = p.world.bridge.avatarReads s)
    (hstarted : w'.journal.reads = p.world.journal.reads)
    (hresults : w'.journal.results = p.world.journal.results)
    (hlog : w'.journal.accepted s = []) (hm : w'.manager.isManaged s = true)
    (hdata : (w'.manager.getAvatarRequest s).data = [])
    (hissued : w'.journal.issued = w'.manager.getIncarnation s :: p.world.journal.issued)
    (hnodup : w'.journal.issued.Nodup) : SlotCommandsOk { p with world := w' } s := by
  have hlog' : w'.log s = [] := congrArg (List.map _) hlog
  -- incarnations are not handed out twice, so the pending read cannot be the new one's
  have hnew : ∀ task, (p.world.bridge.avatarReads s).read = some task →
      (p.world.bridge.avatarReads s).incarnation ≠ w'.manager.getIncarnation s := by
    intro task htask heq
    rcases h.issued task htask with hzero | hmem
    · exact hsane.incarnation_ne_zero hm (heq.symm.trans hzero)
    · rw [hissued, List.nodup_cons, ← heq] at hnodup
      exact hnodup.1 hmem
  constructor
  case started =>
    rintro id (hid | htask)
    · rw [hlog'] at hid
      exact (List.not_mem_nil hid).elim
    · rw [hread] at htask
      rw [hstarted]
      exact h.started id (Or.inr htask)
  case task =>
    intro task htask
    rw [hread] at htask
    rw [hresults]
    exact h.task task htask
  case issued =>
    intro task htask
    rw [hread] at htask ⊢
    exact (h.issued task htask).imp_right fun hmem => hissued ▸ List.mem_cons_of_mem _ hmem
  case idle =>
    intro _ _
    rw [hlog', hdata]
    rfl
  case last =>
    intro _ task htask hinc
    rw [hread] at htask hinc
    exact absurd hinc (hnew task htask)
  case stale =>
    intro _ task _ _
    rw [hlog', hdata]
    exact ⟨fun hlive => List.not_mem_nil hlive.mem, rfl⟩

theorem CommandsOk.proceeds {w' : World} (h : CommandsOk p) (hp : p.world.Proceeds w')
    (hsane : w'.Sane) (hnodup : w'.journal.issued.Nodup) :
    CommandsOk { p with world := w' } := by
  -- no operation of this kind adds a read or a command
  have hmentions : ∀ s id, w'.Mentions s id → p.world.Mentions s id := by
    rintro s id (hid | htask)
    · rcases hp.lives s with ⟨hlog, -⟩ | ⟨hlog, -⟩
      · left
        rw [World.log, hlog] at hid
        exact hid
      · rw [World.log, hlog] at hid
        exact (List.not_mem_nil hid).elim
    · rw [hp.reads] at htask
      exact Or.inr htask
  constructor
  case sane => exact hsane
  case connected =>
    intro hc
    rw [hp.client] at hc
    exact hp.connected (h.connected hc)
  case unstarted =>
    intro hc
    rw [hp.client] at hc
    exact hp.started.trans (h.unstarted hc)
  case fresh =>
    intro id hid
    rw [hp.started] at hid
    rw [hp.results]
    exact h.fresh id hid
  case sized =>
    intro id bytes hid
    rw [hp.results] at hid
    exact h.sized id bytes hid
  case unique => exact fun s t id hs ht => h.unique s t id (hmentions s id hs) (hmentions t id ht)
  case running =>
    intro id hlt hid
    rw [hp.started] at hlt
    rw [hp.results] at hid
    rw [hp.reads]
    exact h.running id hlt hid
  case slots =>
    intro s
    rcases hp.lives s with ⟨hlog, hlife⟩ | ⟨hlog, hm, hdata, hissued⟩
    · exact (h.slots s).frame (congrFun hp.reads s) hlog hp.started.ge
        (fun id _ => ⟨congrFun hp.results id, rfl⟩) hp.issued hlife
    · exact (h.slots s).begin hsane (congrFun hp.reads s) hp.started hp.results hlog hm hdata
        hissued hnodup

/-! ## Connecting -/

theorem CommandsOk.loadImpl (h : CommandsOk p) (hclient : p.world.bridge.client = none)
    (found : Bool) : CommandsOk { p with world := p.world.loadImpl found } := by
  -- a client that never connected has started no read, so a new one forgets none
  have hreads := h.unstarted hclient
  have hnone : ∀ s, (p.world.bridge.avatarReads s).read = none := by
    intro s
    cases hread : (p.world.bridge.avatarReads s).read with
    | none => rfl
    | some task =>
      have := (h.slots s).started task.id (Or.inr ⟨task, hread, rfl⟩)
      omega
  -- the new client starts empty; the native side keeps its slots
  have hloaded : (p.world.loadImpl found).bridge.avatarReads = (fun _ => {}) ∧
      (p.world.loadImpl found).journal = p.world.journal ∧
      (p.world.loadImpl found).registry = p.world.registry ∧
      ((p.world.loadImpl found).bridge.client ≠ none →
        (p.world.loadImpl found).connected = true) := by
    have hregistry := registry_bhAttach p.world
    unfold World.loadImpl bhAttach FakeClientManager.attach at *
    dsimp only at hregistry ⊢
    cases found with
    | false => exact ⟨rfl, rfl, rfl, fun hc => absurd rfl hc⟩
    | true =>
      simp only [Bool.not_true, Bool.false_eq_true, if_false]
      split
      · exact ⟨rfl, rfl, rfl, fun hc => absurd rfl hc⟩
      · rename_i hready
        refine ⟨rfl, rfl, rfl, fun _ => ?_⟩
        simp only [Bool.or_eq_true, Bool.not_eq_true', not_or, Bool.not_eq_false,
          Bool.true_and, Bool.not_eq_true] at hready
        exact Bool.and_eq_true_iff.mpr ⟨hready.1, rfl⟩
  have hsane := h.sane.step (.loadImpl found)
  change (p.world.loadImpl found).Sane at hsane
  generalize p.world.loadImpl found = w' at hloaded hsane
  obtain ⟨hread, hjournal, hregistry, hconnected⟩ := hloaded
  have hmentions : ∀ s id, w'.Mentions s id → p.world.Mentions s id := by
    rintro s id (hid | ⟨task, htask, -⟩)
    · left
      rw [World.log, hjournal] at hid
      exact hid
    · rw [hread] at htask
      cases htask
  refine ⟨hsane, hconnected, fun _ => ?_, ?_, ?_, fun s t id hs ht => ?_, ?_, fun s => ?_⟩
  · rw [hjournal]
    exact hreads
  · rw [hjournal]
    exact h.fresh
  · rw [hjournal]
    exact h.sized
  · exact h.unique s t id (hmentions s id hs) (hmentions t id ht)
  · intro id hlt
    rw [hjournal, hreads] at hlt
    omega
  · have hdefault : w'.bridge.avatarReads s = {} := congrFun hread s
    have hholding : w'.registry.holding s = p.world.registry.holding s := by rw [hregistry]
    refine ⟨fun id hid => ?_, ?_, ?_, fun hm _ => ?_, ?_, ?_⟩
    · rw [hjournal]
      exact (h.slots s).started id (hmentions s id hid)
    · intro task htask
      rw [hdefault] at htask
      cases htask
    · intro task htask
      rw [hdefault] at htask
      cases htask
    -- without a read the slot is idle, as it was before
    · have hm' : p.world.manager.isManaged s = true :=
        (congrArg Holding.managed hholding : _).symm.trans hm
      have hdata : (w'.manager.getAvatarRequest s).data =
          (p.world.manager.getAvatarRequest s).data :=
        (congrArg (fun h : Holding => h.request.data) hholding : _)
      have hout : (Watch.outcome { p with world := w' }) = p.outcome := by
        unfold Watch.outcome
        rw [hjournal]
      have hlog : w'.log s = p.world.log s := by
        unfold World.log
        rw [hjournal]
      rw [hdata, hout, hlog]
      exact (h.slots s).idle hm' (hnone s)
    · intro _ task htask
      rw [hdefault] at htask
      cases htask
    · intro _ task htask
      rw [hdefault] at htask
      cases htask

/-! ## One slot -/

/-- What else the commands and reads of one slot leave alone. -/
structure World.Elsewhere (s : Slot) (w w' : World) : Prop where
  client : w'.bridge.client = w.bridge.client
  connected : w'.connected = w.connected
  issued : w'.journal.issued = w.journal.issued
  read : ∀ t, t ≠ s → w'.bridge.avatarReads t = w.bridge.avatarReads t
  accepted : ∀ t, t ≠ s → w'.journal.accepted t = w.journal.accepted t
  holding : ∀ t, t ≠ s → w'.registry.holding t = w.registry.holding t

/-- **One slot.** What is done about one slot is right when it is right for the slot, and the
others mention none of the reads it is about. -/
theorem CommandsOk.at_slot (h : CommandsOk p) (hw : p.world.Elsewhere s p'.world)
    (hsane : p'.world.Sane) (hreads : p.world.journal.reads ≤ p'.world.journal.reads)
    (hunstarted : p'.world.bridge.client = none → p'.world.journal.reads = 0)
    (hfresh : ∀ id, p'.world.journal.reads ≤ id →
      p'.world.journal.results id = none ∧ p'.refused id = false)
    (hsized : ∀ id bytes, p'.world.journal.results id = some (some bytes) →
      0 < bytes.length ∧ bytes.length ≤ kAvatarMaxBytes)
    (hknown : ∀ t, t ≠ s → ∀ id, p.world.Mentions t id →
      p'.world.journal.results id = p.world.journal.results id ∧ p'.refused id = p.refused id)
    (hmentions : ∀ id, p'.world.Mentions s id →
      p.world.Mentions s id ∨ p.world.journal.reads ≤ id)
    (hrunning : ∀ id, id < p'.world.journal.reads → p'.world.journal.results id = none →
      ∃ t task, (p'.world.bridge.avatarReads t).read = some task ∧ task.id = id)
    (hslot : SlotCommandsOk p' s) : CommandsOk p' := by
  have hother : ∀ t, t ≠ s → ∀ id, p'.world.Mentions t id → p.world.Mentions t id := by
    intro t ht id hid
    unfold World.Mentions World.log at hid ⊢
    rwa [hw.accepted t ht, hw.read t ht] at hid
  -- a read the slot mentions is an old one of its own, or one nobody knew
  have hapart : ∀ t, t ≠ s → ∀ id, p'.world.Mentions s id → ¬ p'.world.Mentions t id := by
    intro t ht id hs htid
    have htold := hother t ht id htid
    rcases hmentions id hs with hold | hnew
    · exact ht (h.unique t s id htold hold)
    · have := (h.slots t).started id htold
      omega
  refine ⟨hsane, fun hc => ?_, hunstarted, hfresh, hsized, fun t u id ht hu => ?_, hrunning,
    fun t => ?_⟩
  · rw [hw.client] at hc
    rw [hw.connected]
    exact h.connected hc
  -- reads stay unique: those of the slot are apart from all others
  · rcases eq_or_ne t s with rfl | hts
    · by_contra hne
      exact hapart u (Ne.symm hne) id ht hu
    · rcases eq_or_ne u s with rfl | hus
      · exact absurd ht (hapart t hts id hu)
      · exact h.unique t u id (hother t hts id ht) (hother u hus id hu)
  · rcases eq_or_ne t s with rfl | ht
    · exact hslot
    · refine (h.slots t).frame (hw.read t ht) (hw.accepted t ht) hreads (hknown t ht)
        (hw.issued ▸ List.suffix_rfl) ?_
      rw [hw.holding t ht]
      exact .refl _

end BotHider.Model
