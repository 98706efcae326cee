import BotHider.Avatar.Commands

/-!
# BotHider — the steps of an avatar command

A command is accepted (`clear`, `start`), its read ends (`complete`) and is taken at a later
tick (`finish`). Each is about one slot and keeps `CommandsOk`.
-/

namespace BotHider.Model

open World

variable {p : Watch} {s : Slot}

/-! ## Accepting -/

/-- What a read of a slot's record tells. -/
theorem readSlot_eq_some {w : World} {slot : Int} {snapshot : SlotSnapshot}
    (h : w.readSlot slot = some snapshot) : w.bridge.client ≠ none ∧ w.connected = true ∧
      ∃ index, slotOf slot = some index ∧ snapshot = (w.manager.slots index).snapshot := by
  unfold readSlot bhGetSlot validSlot at h
  split at h
  · cases h
  · rename_i hclient
    split at h
    · rename_i hconnected
      obtain ⟨index, hindex, rfl⟩ := Option.map_eq_some_iff.mp h
      exact ⟨fun hn => hclient (by rw [hn]; rfl), hconnected, index, hindex, rfl⟩
    · cases h

/-- A slot is the target of the incarnation it has. -/
theorem target_of_managed {w : World} (hconnected : w.connected = true)
    (hm : w.manager.isManaged s = true) (hinc : w.manager.getIncarnation s ≠ 0) :
    w.target s.val (w.manager.getIncarnation s) = some s := by
  unfold target validSlot
  rw [if_pos hconnected, slotOf_val, Option.filter_some, if_pos]
  simp [hm, hinc]

/-- The holding of a slot with a new request. -/
theorem holding_setAvatarRequest (w : World) (s : Slot) (data : Bytes) :
    (w.withManager (w.manager.setAvatarRequest s data)).manager.isManaged s =
        w.manager.isManaged s ∧
      (w.withManager (w.manager.setAvatarRequest s data)).manager.getIncarnation s =
        w.manager.getIncarnation s ∧
      ((w.withManager (w.manager.setAvatarRequest s data)).manager.getAvatarRequest s).data =
        data := by
  simp [withManager, FakeClientManager.setAvatarRequest, FakeClientManager.publishAvatarState,
    FakeClientManager.modifySnapshot, FakeClientManager.isManaged,
    FakeClientManager.getIncarnation, FakeClientManager.getAvatarRequest]

/-- What an accepted clear leaves. -/
def World.cleared (w : World) (s : Slot) : World :=
  World.accept ((w.setAvatarRead s { w.bridge.avatarReads s with incarnation := 0 }).withManager
    (w.manager.setAvatarRequest s [])) s .clear

theorem clearBotAvatar_eq {w : World} (hconnected : w.connected = true)
    (hm : w.manager.isManaged s = true) (hinc : w.manager.getIncarnation s ≠ 0) :
    w.clearBotAvatar s (w.manager.getIncarnation s) = (w.cleared s, true) := by
  have htarget := target_of_managed (w := w.setAvatarRead s
    { w.bridge.avatarReads s with incarnation := 0 }) hconnected hm hinc
  have hset : (w.setAvatarRead s { w.bridge.avatarReads s with incarnation := 0 }).bhSetAvatar
      s.val (w.manager.getIncarnation s) none 0 true =
        ((w.setAvatarRead s { w.bridge.avatarReads s with incarnation := 0 }).withManager
          (w.manager.setAvatarRequest s []), true) := by
    unfold bhSetAvatar
    rw [show (w.setAvatarRead s { w.bridge.avatarReads s with incarnation := 0 }).target s.val
      (w.manager.getIncarnation s) = some s from htarget]
    rfl
  unfold clearBotAvatar
  dsimp only
  rw [hset]
  rfl

theorem holding_withRequest_of_ne (w : World) {s t : Slot} (ht : t ≠ s) (data : Bytes) :
    (w.withManager (w.manager.setAvatarRequest s data)).registry.holding t =
      w.registry.holding t :=
  congrArg (Holding.of · _) (slots_setAvatarRequest_of_ne ht data)

/-- A clear is accepted: nothing pending counts any more. -/
theorem CommandsOk.clear (h : CommandsOk p) (hm : p.world.manager.isManaged s = true)
    (hsane : (p.world.cleared s).Sane) : CommandsOk { p with world := p.world.cleared s } := by
  have hinc := h.sane.incarnation_ne_zero hm
  obtain ⟨hm', hinc', hdata'⟩ := holding_setAvatarRequest p.world s []
  have hlog : (p.world.cleared s).log s = p.world.log s ++ [none] := by
    simp [World.log, World.cleared, World.accept, AvatarCommand.entry, withManager, setAvatarRead,
      withBridge]
  have hread : (p.world.cleared s).bridge.avatarReads s =
      { p.world.bridge.avatarReads s with incarnation := 0 } := Function.update_self ..
  -- a clear leaves a running read where it is; it only stops counting
  have hreadOf : ∀ t, ((p.world.cleared s).bridge.avatarReads t).read =
      (p.world.bridge.avatarReads t).read := by
    intro t
    rcases eq_or_ne t s with rfl | ht
    · rw [hread]
    · exact congrArg AvatarRead.read (Function.update_of_ne ht ..)
  have hmentions : ∀ id, (p.world.cleared s).Mentions s id → p.world.Mentions s id := by
    rintro id (hid | htask)
    · rw [hlog, List.mem_append, List.mem_singleton] at hid
      exact Or.inl (hid.resolve_right (Option.some_ne_none id))
    · rw [hreadOf] at htask
      exact Or.inr htask
  refine h.at_slot (s := s) ⟨rfl, rfl, rfl, fun t ht => Function.update_of_ne ht ..,
    fun t ht => Function.update_of_ne ht .., fun t ht => holding_withRequest_of_ne _ ht _⟩ hsane
    le_rfl h.unstarted h.fresh h.sized (fun _ _ _ _ => ⟨rfl, rfl⟩)
    (fun id hid => Or.inl (hmentions id hid)) (fun id hlt hid => ?_) ?_
  · obtain ⟨t, task, htask, hid⟩ := h.running id hlt hid
    exact ⟨t, task, (hreadOf t).trans htask, hid⟩
  -- the last command is a clear, so the log comes to no bytes whatever the reads give
  · have heffect : ∀ out : Nat → Option Bytes,
        (((p.world.cleared s).manager.getAvatarRequest s).data : Bytes) =
          Deferred.effect [] out ((p.world.cleared s).log s) := by
      intro out
      rw [hlog, Deferred.effect_append_none]
      exact hdata'
    refine ⟨fun id hid => (h.slots s).started id (hmentions id hid), fun task htask => ?_,
      fun task _ => Or.inl (congrArg AvatarRead.incarnation hread), fun _ _ => heffect _,
      fun _ task _ hzero => ?_, fun _ task _ _ => ⟨?_, heffect _⟩⟩
    · rw [hreadOf] at htask
      exact (h.slots s).task task htask
    · rw [hread] at hzero
      exact absurd (hinc'.symm.trans hzero.symm) hinc
    · rw [hlog]
      exact Deferred.not_live_append_none

/-- A file is accepted: its read is the only one pending for the slot. -/
theorem CommandsOk.start (h : CommandsOk p) (hclient : p.world.bridge.client ≠ none)
    (hm : p.world.manager.isManaged s = true) (hnone : (p.world.bridge.avatarReads s).read = none)
    (hissued : p.world.manager.getIncarnation s ∈ p.world.journal.issued)
    (hsane : (p.world.startAvatarRead s (p.world.manager.getIncarnation s)).Sane) :
    CommandsOk { p with
      world := p.world.startAvatarRead s (p.world.manager.getIncarnation s) } := by
  have hlog : (p.world.startAvatarRead s (p.world.manager.getIncarnation s)).log s =
      p.world.log s ++ [some p.world.journal.reads] := by
    simp [World.log, World.startAvatarRead, World.accept, AvatarCommand.entry, setAvatarRead,
      withBridge]
  have hread : (p.world.startAvatarRead s (p.world.manager.getIncarnation s)).bridge.avatarReads s =
      { incarnation := p.world.manager.getIncarnation s
        read := some { id := p.world.journal.reads } } := Function.update_self ..
  have hother : ∀ t, t ≠ s →
      (p.world.startAvatarRead s (p.world.manager.getIncarnation s)).bridge.avatarReads t =
        p.world.bridge.avatarReads t := fun t ht => Function.update_of_ne ht ..
  have hfresh := h.fresh p.world.journal.reads le_rfl
  -- the read just started is nobody's yet
  have hnew : ∀ id, p.world.Mentions s id → id ≠ p.world.journal.reads :=
    fun id hid => ((h.slots s).started id hid).ne
  have hmentions : ∀ id, (p.world.startAvatarRead s (p.world.manager.getIncarnation s)).Mentions
      s id → p.world.Mentions s id ∨ id = p.world.journal.reads := by
    rintro id (hid | ⟨task, htask, rfl⟩)
    · rw [hlog, List.mem_append, List.mem_singleton] at hid
      exact hid.imp Or.inl Option.some.inj
    · rw [hread] at htask
      exact Or.inr (congrArg ReadTask.id (Option.some.inj htask)).symm
  refine h.at_slot (s := s) ⟨rfl, rfl, rfl, hother, fun t ht => Function.update_of_ne ht ..,
    fun _ _ => rfl⟩ hsane (Nat.le_succ _) (fun hc => absurd hc hclient)
    (fun id hid => h.fresh id ((Nat.le_succ _).trans hid)) h.sized (fun _ _ _ _ => ⟨rfl, rfl⟩)
    (fun id hid => (hmentions id hid).imp_right ge_of_eq) (fun id hlt hid => ?_) ?_
  -- every unfinished read is still pending somewhere: the older ones elsewhere, the new one here
  · rcases Nat.lt_succ_iff_lt_or_eq.mp hlt with hlt | rfl
    · obtain ⟨t, task, htask, hid⟩ := h.running id hlt hid
      refine ⟨t, task, ?_, hid⟩
      rw [hother t fun ht => ?_]
      · exact htask
      · rw [ht, hnone] at htask
        cases htask
    · exact ⟨s, { id := p.world.journal.reads }, congrArg AvatarRead.read hread, rfl⟩
  · refine ⟨fun id hid => ?_, fun task htask => ?_, fun task _ => Or.inr ?_,
      fun _ hnone' => ?_, fun _ task htask _ => ?_, fun _ task _ hne => ?_⟩
    · exact Nat.lt_succ_iff_lt_or_eq.mpr ((hmentions id hid).imp_left ((h.slots s).started id))
    · rw [hread] at htask
      obtain rfl := Option.some.inj htask
      exact hfresh
    · rw [hread]
      exact hissued
    · rw [hread] at hnone'
      cases hnone'
    · rw [hread] at htask
      obtain rfl := Option.some.inj htask
      -- before the command the slot was idle, so its request is what the older log comes to
      refine ⟨p.world.log s, hlog, fun hmem => hnew _ (Or.inl hmem) rfl, ?_⟩
      exact (h.slots s).idle hm hnone
    · rw [hread] at hne
      exact absurd rfl hne

/-! ## Reading -/

theorem readAvatar_sized {file : Option Bytes} {bytes : Bytes}
    (h : World.readAvatar file = some bytes) :
    0 < bytes.length ∧ bytes.length ≤ kAvatarMaxBytes := by
  unfold World.readAvatar at h
  simpa using (Option.filter_eq_some_iff.mp h).2

/-- What the end of a running read leaves. -/
def World.completed (w : World) (s : Slot) (id : Nat) (result : Option Bytes) : World :=
  let completed := w.setAvatarRead s
    { w.bridge.avatarReads s with read := some { id, result := some result } }
  { completed with
    journal :=
      { completed.journal with
        results := Function.update completed.journal.results id (some result) } }

theorem completeAvatarRead_of_running {w : World} {task : ReadTask}
    (hread : (w.bridge.avatarReads s).read = some task) (hres : task.result = none)
    (file : Option Bytes) :
    w.completeAvatarRead s file = w.completed s task.id (World.readAvatar file) := by
  unfold completeAvatarRead World.completed
  simp only [hread, hres, Option.isSome_none, Bool.false_eq_true, if_false]

theorem completeAvatarRead_cases (w : World) (s : Slot) (file : Option Bytes) :
    w.completeAvatarRead s file = w ∨ ∃ task, (w.bridge.avatarReads s).read = some task ∧
      w.completeAvatarRead s file = w.completed s task.id (World.readAvatar file) := by
  cases hread : (w.bridge.avatarReads s).read with
  | none =>
    left
    unfold completeAvatarRead
    simp only [hread]
  | some task =>
    cases hres : task.result with
    | some result =>
      left
      unfold completeAvatarRead
      simp only [hread, hres, Option.isSome_some, if_true]
    | none => exact Or.inr ⟨task, rfl, completeAvatarRead_of_running hread hres file⟩

/-- A read finishes; its bytes wait for the next tick. -/
theorem CommandsOk.complete (h : CommandsOk p) {task : ReadTask}
    (hread : (p.world.bridge.avatarReads s).read = some task) {result : Option Bytes}
    (hsize : ∀ bytes, result = some bytes → 0 < bytes.length ∧ bytes.length ≤ kAvatarMaxBytes)
    (hsane : (p.world.completed s task.id result).Sane) :
    CommandsOk { p with world := p.world.completed s task.id result } := by
  have hmention : p.world.Mentions s task.id := Or.inr ⟨task, hread, rfl⟩
  have hlt := (h.slots s).started task.id hmention
  have hself : (p.world.completed s task.id result).bridge.avatarReads s =
      { p.world.bridge.avatarReads s with read := some { id := task.id, result := some result } } :=
    Function.update_self ..
  have hother : ∀ t, t ≠ s → (p.world.completed s task.id result).bridge.avatarReads t =
      p.world.bridge.avatarReads t := fun t ht => Function.update_of_ne ht ..
  have hres : (p.world.completed s task.id result).journal.results task.id = some result :=
    Function.update_self ..
  have hkept : ∀ id, id ≠ task.id → (p.world.completed s task.id result).journal.results id =
      p.world.journal.results id := fun id hid => Function.update_of_ne hid ..
  have hmentions : ∀ id, (p.world.completed s task.id result).Mentions s id →
      p.world.Mentions s id := by
    rintro id (hid | ⟨task', htask, rfl⟩)
    · exact Or.inl hid
    · rw [hself] at htask
      obtain rfl := Option.some.inj htask
      exact hmention
  -- only this read's outcome becomes known
  have hout : ∀ id, id ≠ task.id →
      Watch.outcome { p with world := p.world.completed s task.id result } id = p.outcome id := by
    intro id hid
    unfold Watch.outcome
    rw [hkept id hid]
  refine h.at_slot (s := s) ⟨rfl, rfl, rfl, hother, fun _ _ => rfl, fun _ _ => rfl⟩ hsane le_rfl
    h.unstarted (fun id hid => ?_) (fun id bytes hid => ?_) (fun t ht id hid => ?_)
    (fun id hid => Or.inl (hmentions id hid)) (fun id hlt' hid => ?_) ?_
  · rw [hkept id (hlt.trans_le hid).ne']
    exact h.fresh id hid
  · rcases eq_or_ne id task.id with rfl | hne
    · rw [hres] at hid
      exact hsize bytes (Option.some.inj hid)
    · rw [hkept id hne] at hid
      exact h.sized id bytes hid
  -- no other slot mentions this read
  · exact ⟨hkept id fun heq => ht (h.unique t s id hid (heq ▸ hmention)), rfl⟩
  · have hne : id ≠ task.id := by
      rintro rfl
      rw [hres] at hid
      cases hid
    rw [hkept id hne] at hid
    obtain ⟨t, task', htask, hid'⟩ := h.running id hlt' hid
    refine ⟨t, task', ?_, hid'⟩
    rw [hother t fun ht => ?_]
    · exact htask
    · rw [ht, hread] at htask
      exact hne (Option.some.inj htask ▸ hid'.symm)
  · refine ⟨fun id hid => (h.slots s).started id (hmentions id hid), fun task' htask => ?_,
      fun task' _ => ?_, fun _ hnone => ?_, fun hm task' htask hinc => ?_,
      fun hm task' htask hinc => ?_⟩
    · rw [hself] at htask
      obtain rfl := Option.some.inj htask
      exact ⟨hres, ((h.slots s).task task hread).2⟩
    · rw [hself]
      exact (h.slots s).issued task hread
    · rw [hself] at hnone
      cases hnone
    · rw [hself] at htask hinc
      obtain rfl := Option.some.inj htask
      -- the log before this command does not mention the read
      obtain ⟨before, hlog, hmem, hdata⟩ := (h.slots s).last hm task hread hinc
      refine ⟨before, hlog, hmem, hdata.trans (Deferred.effect_congr fun id hid => ?_)⟩
      exact (hout id fun heq => hmem (heq ▸ hid.mem)).symm
    · rw [hself] at htask hinc
      obtain rfl := Option.some.inj htask
      -- a read that no longer counts is not live in the log
      obtain ⟨hlive, hdata⟩ := (h.slots s).stale hm task hread hinc
      refine ⟨hlive, hdata.trans (Deferred.effect_congr fun id hid => ?_)⟩
      exact (hout id fun heq => hlive (heq ▸ hid)).symm

/-! ## Finishing -/

/-- What `BH_SetAvatar` makes of an image of a size it takes. -/
theorem bhSetAvatar_of_managed {w : World} (hconnected : w.connected = true)
    (hm : w.manager.isManaged s = true) (hinc : w.manager.getIncarnation s ≠ 0) {bytes : Bytes}
    (hsize : 0 < bytes.length ∧ bytes.length ≤ kAvatarMaxBytes) (alloc : Bool) :
    (w.bhSetAvatar s.val (w.manager.getIncarnation s) (some bytes) bytes.length alloc).1 =
      if hasPngStructure (some bytes) && alloc then
        w.withManager (w.manager.setAvatarRequest s bytes)
      else w := by
  have hlen : ¬ ((bytes.length : Int) < 0 ∨ (bytes.length : Int) > kAvatarMaxBytes) := by omega
  have hne : bytes ≠ [] := List.length_pos_iff.mp hsize.1
  have htake : (some bytes).map (List.take (bytes.length : Int).toNat) = some bytes := by simp
  unfold bhSetAvatar
  rw [target_of_managed hconnected hm hinc]
  dsimp only
  rw [if_neg hlen, htake]
  cases hasPngStructure (some bytes) <;> cases alloc <;> simp [hne]

/-- What one round of `FinishAvatarReads` does to a slot whose read has finished. -/
theorem finishAvatarRead_cases {w : World} (hclient : w.bridge.client ≠ none)
    (hconnected : w.connected = true) (hsane : w.Sane) {task : ReadTask} {result : Option Bytes}
    (hread : (w.bridge.avatarReads s).read = some task) (hres : task.result = some result)
    (hsize : ∀ bytes, result = some bytes → 0 < bytes.length ∧ bytes.length ≤ kAvatarMaxBytes)
    (alloc : Bool) :
    (w.manager.isManaged s = true ∧
      (w.bridge.avatarReads s).incarnation = w.manager.getIncarnation s ∧
      w.finishAvatarRead alloc s =
        match result.filter fun bytes => hasPngStructure (some bytes) && alloc with
        | none => w.setAvatarRead s {}
        | some bytes => (w.setAvatarRead s {}).withManager (w.manager.setAvatarRequest s bytes)) ∨
    ((w.manager.isManaged s = true →
        (w.bridge.avatarReads s).incarnation ≠ w.manager.getIncarnation s) ∧
      w.finishAvatarRead alloc s = w.setAvatarRead s {}) := by
  -- `ReadSlot` succeeds: the bridge is connected
  have hslot : (w.setAvatarRead s {}).readSlot s.val = some (w.manager.slots s).snapshot := by
    have hvalid : (w.setAvatarRead s {}).validSlot s.val = some s := by
      unfold validSlot
      rw [slotOf_val]
      exact if_pos hconnected
    unfold readSlot bhGetSlot
    rw [hvalid, if_neg]
    · rfl
    · exact fun hn => hclient (Option.isNone_iff_eq_none.mp hn)
  have hfinish : ∀ result, task.result = some result → w.finishAvatarRead alloc s =
      if w.manager.getIncarnation s ≠ (w.bridge.avatarReads s).incarnation ∨
          (w.bridge.avatarReads s).incarnation = 0 then w.setAvatarRead s {}
      else match result with
        | none => w.setAvatarRead s {}
        | some bytes => ((w.setAvatarRead s {}).bhSetAvatar s.val
            (w.bridge.avatarReads s).incarnation (some bytes) bytes.length alloc).1 := by
    intro result hres
    unfold finishAvatarRead
    simp only [hread, Option.bind_some, hres, hslot]
    rfl
  rw [hfinish result hres]
  split
  -- the read belongs to another lifetime, or was cleared
  · rename_i hstale
    refine Or.inr ⟨fun hm heq => ?_, rfl⟩
    rcases hstale with hne | hzero
    · exact hne heq.symm
    · exact hsane.incarnation_ne_zero hm (heq.symm.trans hzero)
  -- the read is the current lifetime's, so the slot is managed
  · rename_i hlive
    rw [not_or, not_not] at hlive
    obtain ⟨hinc, hnz⟩ := hlive
    have hm : w.manager.isManaged s = true := by
      by_contra hm
      exact hnz (hinc.symm.trans (hsane.incarnation_eq_zero (Bool.not_eq_true _ ▸ hm)))
    refine Or.inl ⟨hm, hinc.symm, ?_⟩
    cases result with
    | none => rfl
    | some bytes =>
      have hset := bhSetAvatar_of_managed (w := w.setAvatarRead s {}) hconnected hm
        (hinc ▸ hnz) (hsize bytes rfl) alloc
      rw [show (w.setAvatarRead s {}).manager.getIncarnation s =
        (w.bridge.avatarReads s).incarnation from hinc] at hset
      dsimp only
      rw [hset, Option.filter_some]
      cases hasPngStructure (some bytes) && alloc <;> rfl

/-- Without a finished read the round does nothing. -/
theorem finish_of_not_finished (alloc : Slot → Bool)
    (h : (p.world.bridge.avatarReads s).read.bind ReadTask.result = none) :
    Watch.finish alloc p s = p := by
  have hworld : p.world.finishAvatarRead (alloc s) s = p.world := by
    unfold finishAvatarRead
    simp only [h]
  unfold Watch.finish
  rw [hworld]
  cases hread : (p.world.bridge.avatarReads s).read with
  | none => rfl
  | some task =>
    rw [hread, Option.bind_some] at h
    dsimp only
    rw [if_neg fun hc => by
      rw [h] at hc
      exact Bool.false_ne_true hc.1]

/-- A finished read goes, and its bytes are taken where it still counts. -/
theorem CommandsOk.finish (h : CommandsOk p) (alloc : Slot → Bool) (s : Slot) :
    CommandsOk (Watch.finish alloc p s) := by
  cases hfinished : (p.world.bridge.avatarReads s).read.bind ReadTask.result with
  | none =>
    rw [finish_of_not_finished alloc hfinished]
    exact h
  | some result =>
    obtain ⟨task, hread, hres⟩ := Option.bind_eq_some_iff.mp hfinished
    have hmention : p.world.Mentions s task.id := Or.inr ⟨task, hread, rfl⟩
    have hlt := (h.slots s).started task.id hmention
    obtain ⟨hresults, hrefused⟩ := (h.slots s).task task hread
    rw [hres] at hresults
    have hclient : p.world.bridge.client ≠ none := by
      intro hn
      have := h.unstarted hn
      omega
    have hsane : (Watch.finish alloc p s).world.Sane :=
      ⟨h.sane.good.path (hop_finishAvatarRead p.world (alloc s) s).path,
        (loaded_of_face (face_finishAvatarRead p.world (alloc s) s)).trans h.sane.loaded⟩
    have hcases := finishAvatarRead_cases hclient (h.connected hclient) h.sane hread hres
      (fun bytes hb => h.sized task.id bytes (hb ▸ hresults)) (alloc s)
    -- what the round leaves, whatever it does to the request
    have hleft : ∃ m, (Watch.finish alloc p s).world = (p.world.setAvatarRead s {}).withManager m ∧
        m.ready = p.world.manager.ready ∧ m.attached = p.world.manager.attached := by
      change ∃ m, p.world.finishAvatarRead (alloc s) s = _ ∧ _
      rcases hcases with ⟨-, -, heq⟩ | ⟨-, heq⟩
      · rw [heq]
        split
        · exact ⟨_, rfl, rfl, rfl⟩
        · exact ⟨_, rfl, rfl, rfl⟩
      · exact ⟨_, heq, rfl, rfl⟩
    obtain ⟨m, hworld, hready, hattached⟩ := hleft
    -- an allocation that fails is the only way a read is refused
    have hrefused' : (Watch.finish alloc p s).refused =
        if alloc s = false then Function.update p.refused task.id true else p.refused := by
      unfold Watch.finish
      simp only [hread, hres, Option.isSome_some, true_and]
    have hother : ∀ t, t ≠ s → (Watch.finish alloc p s).world.registry.holding t =
        p.world.registry.holding t := fun t ht =>
      holding_finishAvatarRead_of_ne p.world (alloc s) ht
    change p.world.finishAvatarRead (alloc s) s = _ at hworld
    generalize hp' : Watch.finish alloc p s = p' at hsane hrefused' hother ⊢
    have hround : p'.world = p.world.finishAvatarRead (alloc s) s := hp' ▸ rfl
    have hworld' : p'.world = (p.world.setAvatarRead s {}).withManager m := hround.trans hworld
    have hjournal : p'.world.journal = p.world.journal := (congrArg World.journal hworld' : _)
    have hself : p'.world.bridge.avatarReads s = {} :=
      (congrArg (fun w : World => w.bridge.avatarReads s) hworld').trans (Function.update_self ..)
    have hothers : ∀ t, t ≠ s →
        p'.world.bridge.avatarReads t = p.world.bridge.avatarReads t := fun t ht =>
      (congrArg (fun w : World => w.bridge.avatarReads t) hworld').trans
        (Function.update_of_ne ht ..)
    have hlog : p'.world.log s = p.world.log s := by rw [World.log, hjournal, World.log]
    have hkept : ∀ id, id ≠ task.id → p'.refused id = p.refused id := by
      intro id hid
      rw [hrefused']
      split
      · exact Function.update_of_ne hid ..
      · rfl
    have hout : ∀ id, id ≠ task.id → p'.outcome id = p.outcome id := by
      intro id hid
      unfold Watch.outcome
      rw [hjournal, hkept id hid]
    -- what the read comes to: its bytes, where they have the structure and the call could allocate
    have houtself : p'.outcome task.id =
        result.filter fun bytes => hasPngStructure (some bytes) && alloc s := by
      have hflag : p'.refused task.id = !alloc s := by
        rw [hrefused']
        cases alloc s with
        | false => exact Function.update_self ..
        | true => exact hrefused
      unfold Watch.outcome
      rw [hjournal, hresults, hflag, Bool.not_not]
      rfl
    have hmentions : ∀ id, p'.world.Mentions s id → p.world.Mentions s id := by
      rintro id (hid | ⟨task', htask, -⟩)
      · exact Or.inl (hlog ▸ hid)
      · rw [hself] at htask
        cases htask
    refine h.at_slot (s := s) ⟨(congrArg (fun w : World => w.bridge.client) hworld' : _), ?_,
      congrArg Journal.issued hjournal, hothers, fun t _ => by rw [hjournal], hother⟩ hsane
      (congrArg Journal.reads hjournal).ge (fun hc => ?_) (fun id hid => ?_) (fun id bytes hid => ?_)
      (fun t ht id hid => ⟨by rw [hjournal], hkept id fun heq => ?_⟩)
      (fun id hid => Or.inl (hmentions id hid)) (fun id hid hnone => ?_) ?_
    · rw [hworld']
      change (m.ready && m.attached) = _
      rw [hready, hattached]
      rfl
    · rw [hworld'] at hc
      exact absurd hc hclient
    · rw [hjournal] at hid ⊢
      exact ⟨(h.fresh id hid).1, (hkept id (hlt.trans_le hid).ne').trans (h.fresh id hid).2⟩
    · rw [hjournal] at hid
      exact h.sized id bytes hid
    · exact ht (h.unique t s id hid (heq ▸ hmention))
    · rw [hjournal] at hid hnone
      obtain ⟨t, task', htask, hid'⟩ := h.running id hid hnone
      refine ⟨t, task', ?_, hid'⟩
      rw [hothers t fun ht => ?_]
      · exact htask
      · rw [ht, hread] at htask
        rw [← hid', ← Option.some.inj htask, hresults] at hnone
        cases hnone
    · refine ⟨fun id hid => ?_, fun task' htask => ?_, fun task' htask => ?_, fun hm _ => ?_,
        fun _ task' htask => ?_, fun _ task' htask => ?_⟩
      · rw [hjournal]
        exact (h.slots s).started id (hmentions id hid)
      · rw [hself] at htask
        cases htask
      · rw [hself] at htask
        cases htask
      -- the slot is idle again, and its request is what the whole log comes to
      · rw [hround] at hm
        rw [hlog, hround]
        -- a read that counts is the last command; one that does not changes nothing
        rcases hcases with ⟨hm₀, hinc, heq⟩ | ⟨hstale, heq⟩
        · obtain ⟨before, hbefore, hmem, hdata⟩ := (h.slots s).last hm₀ task hread hinc
          have hbefore' : Deferred.effect [] p'.outcome before = Deferred.effect [] p.outcome before :=
            Deferred.effect_congr fun id hid => hout id fun heq' => hmem (heq' ▸ hid.mem)
          rw [hbefore, Deferred.effect_append_some, houtself, hbefore', ← hdata, heq]
          cases result.filter fun bytes => hasPngStructure (some bytes) && alloc s with
          | none => rfl
          | some bytes => exact (holding_setAvatarRequest (p.world.setAvatarRead s {}) s bytes).2.2
        · rw [heq] at hm ⊢
          obtain ⟨hlive, hdata⟩ := (h.slots s).stale hm task hread (hstale hm)
          refine (show _ = _ from hdata).trans (Deferred.effect_congr fun id hid => ?_)
          exact (hout id fun heq' => hlive (heq' ▸ hid)).symm
      · rw [hself] at htask
        cases htask
      · rw [hself] at htask
        cases htask

end BotHider.Model
