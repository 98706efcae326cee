import BotHider.Lib.Grace
import BotHider.Model.System

/-!
# BotHider — the queue of controller removals

A kicked bot's controller is removed frames later, when its handle may name another
entity and another player may own it. The queue is followed here beside a log that
numbers its items (`Grace.Log`) and notes every call of `RemoveEntity`.

* `drainControllerRemoval_eq` — the loop body, as one visit of a pass.
* `visits_removalVisit` — what a visit may do.
* `removals_safe` — no handle is queued twice, no item is removed twice or unsafely, and
  none outlives its second drain.
-/

namespace BotHider.Model

open World

/-! ## One visit -/

/-- A call of `RemoveEntity`: the world it is made in and the entity it is made on. -/
structure Removal where
  world : World
  controller : Entity

/-- The body of the loop of `DrainPendingControllerRemovals`, with what becomes of the
item. -/
def World.removalVisit (w : World) (item : PendingControllerRemoval) :
    World × Grace.Verdict PendingControllerRemoval Removal :=
  let index := entryIndex item.handle
  match w.engine.resolveEntityInstance index with
  | none => (w, .drop)
  | some current =>
    if current.addr ≠ item.controller ∨ ¬ current.LiveController ∨ current.handle ≠ item.handle then
      (w, .drop)
    else
      let removed := (w.withEngine
        (w.engine.modifyEntity index fun k => { k with beingDeleted := true }),
        Grace.Verdict.act ⟨w, current⟩)
      match w.controllerReference current.addr with
      | none => removed
      | some userId =>
        if userId ≠ item.userId then (w, .drop)
        else if item.referencedFrames = 0 then
          (w, .keep { item with referencedFrames := item.referencedFrames + 1 })
        else removed

theorem drainControllerRemoval_eq (s : World × List PendingControllerRemoval)
    (item : PendingControllerRemoval) :
    drainControllerRemoval s item = Grace.visit World.removalVisit s item := by
  unfold drainControllerRemoval Grace.visit World.removalVisit
  dsimp only
  cases s.1.engine.resolveEntityInstance (entryIndex item.handle) with
  | none => rfl
  | some current =>
    dsimp only
    split
    · rfl
    · cases s.1.controllerReference current.addr with
      | none => rfl
      | some userId =>
        dsimp only
        split
        · rfl
        · split <;> rfl

/-- The drain is a pass over the queue. -/
theorem drainPendingControllerRemovals_eq (w : World) (h : w.engine.utilRemove = true) :
    w.drainPendingControllerRemovals =
      let drained := w.identity.pendingControllerRemovals.foldl (Grace.visit World.removalVisit)
        (w, [])
      { drained.1 with
        identity := { drained.1.identity with pendingControllerRemovals := drained.2 } } := by
  have hbody : drainControllerRemoval = Grace.visit World.removalVisit := by
    funext s item
    exact drainControllerRemoval_eq s item
  unfold drainPendingControllerRemovals
  rw [hbody, h]
  rfl

/-! ## What a visit may do -/

/-- A controller is resolved to by one client at most. -/
def Engine.OneClientEach (e : Engine) : Prop :=
  ∀ (s t : Slot) k k', e.controllerAt s = some k → e.controllerAt t = some k' →
    k.addr = k'.addr → s = t

/-- What was queued: the item before any drain. -/
def PendingControllerRemoval.asQueued (item : PendingControllerRemoval) :
    PendingControllerRemoval := { item with referencedFrames := 0 }

/-- The call is made on the entity that was queued, which is a live player controller, and
no client of another user controls it. -/
structure Removal.Safe (item : PendingControllerRemoval) (r : Removal) : Prop where
  current : r.world.engine.resolveEntityInstance (entryIndex item.handle) = some r.controller
  pointer : r.controller.addr = item.controller
  handle : r.controller.handle = item.handle
  live : r.controller.LiveController
  unclaimed : ∀ (s : Slot) c k, r.world.engine.resolveClientBySlot s = some c →
    r.world.engine.controllerAt s = some k → k.addr = r.controller.addr → c.userId = item.userId

variable {w : World} {item : PendingControllerRemoval}

/-- With one client at most for each controller, the reference found is the only one. -/
theorem userId_of_controllerReference (hone : w.engine.OneClientEach) {s : Slot} {c : Client}
    {k : Entity} (hc : w.engine.resolveClientBySlot s = some c)
    (hk : w.engine.controllerAt s = some k) :
    w.controllerReference k.addr = some c.userId := by
  unfold controllerReference
  generalize hslots : (do let a ← allSlots; pure (a : Nat)) = slots
  have hmem : ∀ n, n ∈ slots ↔ ∃ t : Slot, t.val = n := by
    simp [← hslots, mem_allSlots, eq_comm]
  have hs : ((w.engine.controllerAt s).any fun k' => k'.addr == k.addr) = true := by simp [hk]
  cases hfound : slots.find? fun n => (w.engine.controllerAt n).any fun k' => k'.addr == k.addr with
  | none => exact absurd hs (List.find?_eq_none.mp hfound s ((hmem s).mpr ⟨s, rfl⟩))
  | some n =>
    obtain ⟨t, rfl⟩ := (hmem n).mp (List.mem_of_find?_eq_some hfound)
    have ht := List.find?_some hfound
    cases hk' : w.engine.controllerAt t with
    | none => simp [hk'] at ht
    | some k' =>
      have haddr : k'.addr = k.addr := by simpa [hk'] using ht
      obtain rfl := hone t s k' k hk' hk haddr
      rw [Option.bind_some, hc, Option.map_some]

/-- Marking an entity leaves it to the clients that had it. -/
theorem oneClientEach_modifyEntity (hone : w.engine.OneClientEach) {i : Int} (hi : 0 < i) :
    (w.engine.modifyEntity i fun k => { k with beingDeleted := true }).OneClientEach := by
  have haddr : ∀ (s : Slot) k, (w.engine.modifyEntity i fun k =>
      { k with beingDeleted := true }).controllerAt s = some k →
      ∃ k₀, w.engine.controllerAt s = some k₀ ∧ k₀.addr = k.addr := by
    intro s k hk
    cases hc : w.engine.resolveClientBySlot s with
    | none =>
      unfold Engine.controllerAt at hk
      rw [Engine.resolveClientBySlot_modifyEntity, hc] at hk
      cases hk
    | some c =>
      rw [Engine.controllerAt_modifyEntity (f := fun k => { k with beingDeleted := true }) _ hc hi
        fun _ => rfl] at hk
      split at hk
      · obtain ⟨k₀, hk₀, rfl⟩ := Option.map_eq_some_iff.mp hk
        exact ⟨k₀, hk₀, rfl⟩
      · exact ⟨k, hk, rfl⟩
  intro s t k k' hk hk' hsame
  obtain ⟨k₀, hk₀, haddr₀⟩ := haddr s k hk
  obtain ⟨k₁, hk₁, haddr₁⟩ := haddr t k' hk'
  exact hone s t k₀ k₁ hk₀ hk₁ ((haddr₀.trans hsame).trans haddr₁.symm)

/-- What a visit that gets past the identity checks finds. -/
structure World.Matches (w : World) (item : PendingControllerRemoval) (current : Entity) :
    Prop where
  resolved : w.engine.resolveEntityInstance (entryIndex item.handle) = some current
  pointer : current.addr = item.controller
  live : current.LiveController
  handle : current.handle = item.handle

/-- **Visit.** The four outcomes of one round of the loop. -/
theorem removalVisit_cases (w : World) (item : PendingControllerRemoval) :
    w.removalVisit item = (w, .drop) ∨
    (∃ current, w.Matches item current ∧ w.controllerReference current.addr = some item.userId ∧
      item.referencedFrames = 0 ∧
      w.removalVisit item = (w, .keep { item with referencedFrames := 1 })) ∨
    (∃ current, w.Matches item current ∧
      (∀ userId, w.controllerReference current.addr = some userId → userId = item.userId) ∧
      w.removalVisit item = (w.withEngine (w.engine.modifyEntity (entryIndex item.handle)
        fun k => { k with beingDeleted := true }), .act ⟨w, current⟩)) := by
  unfold removalVisit
  dsimp only
  cases hcurrent : w.engine.resolveEntityInstance (entryIndex item.handle) with
  | none => exact Or.inl rfl
  | some current =>
    dsimp only
    by_cases hstale : current.addr ≠ item.controller ∨ ¬ current.LiveController ∨
        current.handle ≠ item.handle
    · rw [if_pos hstale]
      exact Or.inl rfl
    · rw [if_neg hstale]
      simp only [not_or, not_not] at hstale
      obtain ⟨hpointer, hlive, hhandle⟩ := hstale
      have hmatches : w.Matches item current := ⟨hcurrent, hpointer, hlive, hhandle⟩
      cases href : w.controllerReference current.addr with
      | none => exact Or.inr (Or.inr ⟨current, hmatches, by simp [href], rfl⟩)
      | some userId =>
        dsimp only
        by_cases hother : userId ≠ item.userId
        · rw [if_pos hother]
          exact Or.inl rfl
        · rw [if_neg hother]
          obtain rfl := not_not.mp hother
          by_cases hfirst : item.referencedFrames = 0
          · rw [if_pos hfirst, hfirst]
            exact Or.inr (Or.inl ⟨current, hmatches, href, rfl, rfl⟩)
          · rw [if_neg hfirst]
            exact Or.inr (Or.inr ⟨current, hmatches, by simp [href], rfl⟩)

/-- A visit keeps an item at most once, and removes safely. -/
theorem visits_removalVisit : Grace.Visits World.removalVisit (fun w => w.engine.OneClientEach)
    PendingControllerRemoval.asQueued PendingControllerRemoval.referencedFrames 1
    Removal.Safe := by
  refine ⟨fun w item hone => ?_, fun w item b hone hv => ?_, fun w item r hone hv => ?_⟩
  · rcases removalVisit_cases w item with h | ⟨_, -, -, -, h⟩ | ⟨current, hm, -, h⟩
    · rw [h]
      exact hone
    · rw [h]
      exact hone
    · rw [h]
      exact oneClientEach_modifyEntity hone (w.engine.pos_of_resolveEntityInstance hm.resolved)
  · rcases removalVisit_cases w item with h | ⟨_, -, -, hfirst, h⟩ | ⟨_, -, -, h⟩
    · rw [h] at hv
      cases hv
    · rw [h] at hv
      cases hv
      exact ⟨rfl, by rw [hfirst], Nat.le_refl 1⟩
    · rw [h] at hv
      cases hv
  · rcases removalVisit_cases w item with h | ⟨_, -, -, -, h⟩ | ⟨current, hm, hrefs, h⟩
    · rw [h] at hv
      cases hv
    · rw [h] at hv
      cases hv
    · rw [h] at hv
      cases hv
      refine ⟨hm.resolved, hm.pointer, hm.handle, hm.live, fun s c k hc hk haddr => ?_⟩
      have href := userId_of_controllerReference hone hc hk
      rw [haddr] at href
      exact hrefs c.userId href

/-! ## Calls and the log -/

/-- What happens to the queue, and anything else in between. -/
inductive RemovalCall
  | queue (client : Client) (slot : Slot)
  | drain
  | releaseAll
  | clear
  | evolve (v : World)

/-- A world whose queue is another's. -/
def World.withRemovals (w : World) (queue : List PendingControllerRemoval) : World :=
  { w with identity := { w.identity with pendingControllerRemovals := queue } }

/-- A world beside the log of its queue. -/
structure Watched where
  world : World
  log : Grace.Log PendingControllerRemoval Removal := {}

namespace Watched

/-- What a call makes of the world: `ReleaseAll` and `ClearPendingControllerRemovals` empty
the queue, and everything but the queue may evolve. -/
def call (w : World) : RemovalCall → World
  | .queue client slot => w.queueControllerRemovalForClient client slot
  | .drain => w.drainPendingControllerRemovals
  | .releaseAll => w.releaseAll
  | .clear => w.withRemovals []
  | .evolve v => v.withRemovals w.identity.pendingControllerRemovals

/-- One call, noted in the log: what it appended to the queue gets the next tickets. -/
def step (s : Watched) (c : RemovalCall) : Watched where
  world := call s.world c
  log := match c with
    | .queue .. => ((call s.world c).identity.pendingControllerRemovals.drop
        s.world.identity.pendingControllerRemovals.length).foldl Grace.Log.push s.log
    | .drain =>
      if s.world.engine.utilRemove then (s.log.pass World.removalVisit s.world).2
      else s.log.clearPass
    | .releaseAll => s.log.clear
    | .clear => s.log.clear
    | .evolve _ => s.log

/-- The promise: at a drain a controller is resolved to by one client at most. -/
def OneClientEach (s : Watched) (c : RemovalCall) : Prop :=
  c = .drain → s.world.engine.OneClientEach

/-- The log is the queue's and sound, and no handle is in it twice. -/
structure Sound (s : Watched) : Prop where
  items : s.log.items = s.world.identity.pendingControllerRemovals
  log : s.log.Sound PendingControllerRemoval.asQueued PendingControllerRemoval.referencedFrames 1
    Removal.Safe []
  handles : (s.world.identity.pendingControllerRemovals.map
    PendingControllerRemoval.handle).Nodup

end Watched

/-! ## Steps -/

/-- What `QueueControllerRemovalForClient` does to the queue: nothing, or it appends an item
whose handle is new. -/
theorem queueControllerRemovalForClient_cases (w : World) (client : Client) (slot : Slot) :
    w.queueControllerRemovalForClient client slot = w ∨
    ∃ item : PendingControllerRemoval, item.referencedFrames = 0 ∧
      (∀ i ∈ w.identity.pendingControllerRemovals, i.handle ≠ item.handle) ∧
      w.queueControllerRemovalForClient client slot =
        w.withRemovals (w.identity.pendingControllerRemovals ++ [item]) := by
  unfold queueControllerRemovalForClient
  split
  · exact Or.inl rfl
  · split
    · exact Or.inl rfl
    · rename_i controller _
      split
      · exact Or.inl rfl
      · split
        · exact Or.inl rfl
        · rename_i hdup
          refine Or.inr ⟨_, rfl, fun i hi heq => hdup ?_, rfl⟩
          exact List.any_eq_true.mpr ⟨i, hi, by simpa using heq⟩

variable {s : Watched}

theorem Watched.Sound.queue (h : s.Sound) (client : Client) (slot : Slot) :
    (s.step (.queue client slot)).Sound := by
  rcases queueControllerRemovalForClient_cases s.world client slot with hw | ⟨item, hage, hnew, hw⟩
  · have hstep : s.step (.queue client slot) = s := by
      unfold Watched.step Watched.call
      dsimp only
      rw [hw, List.drop_length]
      rfl
    rw [hstep]
    exact h
  · have hstep : s.step (.queue client slot) =
        ⟨s.world.withRemovals (s.world.identity.pendingControllerRemovals ++ [item]),
          s.log.push item⟩ := by
      unfold Watched.step Watched.call
      dsimp only
      rw [hw]
      simp [World.withRemovals]
    rw [hstep]
    refine ⟨?_, h.log.push hage, ?_⟩
    · have hitems : (s.log.push item).items = s.log.items ++ [item] := by
        simp [Grace.Log.push, Grace.Log.items]
      rw [hitems, h.items]
      rfl
    · change ((s.world.identity.pendingControllerRemovals ++ [item]).map _).Nodup
      rw [List.map_append]
      refine List.nodup_append.mpr ⟨h.handles, List.nodup_singleton _, fun x hx y hy => ?_⟩
      obtain ⟨i, hi, rfl⟩ := List.mem_map.mp hx
      rw [List.map_singleton, List.mem_singleton] at hy
      rw [hy]
      exact hnew i hi

/-- The world behind a drain, queue and all, is the one that the logged pass leads to. -/
theorem Watched.Sound.drained (h : s.Sound) (hremove : s.world.engine.utilRemove = true) :
    s.world.drainPendingControllerRemovals =
      (s.log.pass World.removalVisit s.world).1.withRemovals
        (s.log.pass World.removalVisit s.world).2.items := by
  have hpass := Grace.Log.items_pass (f := World.removalVisit) s.world s.log
  rw [h.items] at hpass
  rw [drainPendingControllerRemovals_eq _ hremove, ← hpass]
  rfl

/-- A drain is a pass over the queue, and an emptied queue when nothing can be removed. -/
theorem Watched.Sound.drain (h : s.Sound) (hone : s.world.engine.OneClientEach) :
    (s.step .drain).Sound := by
  cases hremove : s.world.engine.utilRemove with
  | false =>
    have hstep : s.step .drain = ⟨s.world.withRemovals [], s.log.clearPass⟩ := by
      unfold Watched.step Watched.call drainPendingControllerRemovals
      dsimp only
      rw [hremove]
      rfl
    rw [hstep]
    exact ⟨rfl, h.log.clearPass, List.nodup_nil⟩
  | true =>
    have hkeys := Grace.Log.keys_pass (l := s.log) visits_removalVisit hone
    have hstep : (s.step .drain).world.identity.pendingControllerRemovals =
        (s.log.pass World.removalVisit s.world).2.items := by
      unfold Watched.step Watched.call
      dsimp only
      rw [h.drained hremove]
      rfl
    have hlog : (s.step .drain).log = (s.log.pass World.removalVisit s.world).2 := by
      unfold Watched.step
      dsimp only
      rw [if_pos hremove]
    refine ⟨by rw [hlog, hstep], hlog ▸ h.log.pass visits_removalVisit hone, ?_⟩
    -- handles are part of what an item keeps
    have hhandles := (hkeys.map PendingControllerRemoval.handle).nodup
    rw [hstep]
    simp only [List.map_map] at hhandles
    refine hhandles ?_
    rw [h.items]
    exact h.handles

/-- **Step lemma.** -/
theorem Watched.Sound.step (h : s.Sound) (c : RemovalCall) (hc : s.OneClientEach c) :
    (s.step c).Sound := by
  cases c with
  | queue client slot => exact h.queue client slot
  | drain => exact h.drain (hc rfl)
  | releaseAll => exact ⟨rfl, h.log.clear, List.nodup_nil⟩
  | clear => exact ⟨rfl, h.log.clear, List.nodup_nil⟩
  | evolve v => exact ⟨h.items, h.log, h.handles⟩

/-- **Controller removals.** From an empty queue on, whatever is queued, drained, released
and evolves, with one client at most for each controller at a drain: the pending handles are
apart; a queued item has `RemoveEntity` called for it at most once, and only safely; an item
still pending was queued before the last drain but one at the earliest; and a drain makes of the
world what the log notes of it. -/
theorem removals_safe (w : World) (calls : List RemovalCall)
    (hempty : w.identity.pendingControllerRemovals = [])
    (hone : Runs.Admits Watched.step Watched.OneClientEach { world := w } calls) :
    let s := Runs.exec Watched.step { world := w } calls
    (s.world.identity.pendingControllerRemovals.map PendingControllerRemoval.handle).Nodup ∧
    s.log.items = s.world.identity.pendingControllerRemovals ∧
    (s.log.acts.map Prod.fst).Nodup ∧
    (∀ act ∈ s.log.acts, ∃ item, s.log.queued[act.1]? = some item ∧ act.2.Safe item.asQueued) ∧
    (∀ entry ∈ s.log.pending, s.log.passes ≤ entry.since + 1) ∧
    (s.world.engine.utilRemove = true → s.world.drainPendingControllerRemovals =
      (s.log.pass World.removalVisit s.world).1.withRemovals
        (s.log.pass World.removalVisit s.world).2.items) := by
  have hstart : Watched.Sound { world := w } := by
    refine ⟨hempty.symm, Grace.Log.sound_empty, ?_⟩
    rw [hempty]
    exact List.nodup_nil
  have h := Runs.exec_invariant hstart (fun s c hs hc => hs.step c hc) hone
  refine ⟨h.handles, h.items, ?_, h.log.safe, fun entry he => h.log.bounded he, h.drained⟩
  have htickets := h.log.tickets
  simp only [List.map_nil, List.append_nil] at htickets
  exact (List.nodup_append.mp htickets).1

/-- Controllers compared by what the clients of two slots resolve to. -/
theorem Engine.oneClientEach_of_forall {e : Engine} (h : ∀ s t : Slot,
    (e.controllerAt s).isSome → (e.controllerAt s).map Entity.addr =
      (e.controllerAt t).map Entity.addr → s = t) : e.OneClientEach := by
  intro s t k k' hk hk' haddr
  exact h s t (by simp [hk]) (by simp [hk, hk', haddr])

/-- A controller queued while its client is there, and two drains. -/
def twoDrains : List RemovalCall := [.queue (botClient 1) 0, .drain, .drain]

theorem removals_safe_two_drains :
    ((Runs.exec Watched.step { world := World.load smallServer } twoDrains).log.acts.map
      Prod.fst).Nodup :=
  (removals_safe (World.load smallServer) twoDrains (by decide +kernel)
    ⟨nofun, fun _ => Engine.oneClientEach_of_forall (by decide +kernel),
      fun _ => Engine.oneClientEach_of_forall (by decide +kernel), trivial⟩).2.2.1

end BotHider.Model
