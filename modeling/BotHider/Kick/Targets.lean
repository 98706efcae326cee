import BotHider.Kick.Names

/-!
# BotHider — deferred kicks and their targets

A `kickid` finds its bot by user ID, queues it with its client and lifetime, and a frame
later the plugin dispatches `bot_kick` with the slot's name, the one thing that command
takes. The checks of the queue hold for the slot; whether the name tells the slot apart
depends on how names were given.

* `kickid_requested` — what a `kickid` queues.
* `dispatched_checked` — what a dispatch has passed.
* `kick_finds_target` — the dispatched name is the target's alone when names were given
  apart.
* `namesakes_both_named` — two bots of one name are both named by the dispatch.
-/

namespace BotHider.Model

open World

variable {w : World}

/-! ## Queueing -/

/-- The kick a `kickid` leaves in the queue, when the plugin takes the command over. -/
def World.queuedByKickid (w : World) (args : List Bytes) (botKick : Bool) :
    Option PendingBotKick :=
  let pre := w.hookDispatchConCommandPre { name := some "kickid", args } botKick
  if pre.2 then pre.1.identity.pendingBotKicks.getLast? else none

/-- What `QueueManagedBotKick` queues is the client its slot resolves to. -/
theorem queueManagedBotKick_queued {slot : Option Slot} {botKick : Bool}
    (h : (w.queueManagedBotKick slot botKick).2 = true) :
    ∃ index client, slot = some index ∧ w.engine.resolveClientBySlot index = some client ∧
      (w.queueManagedBotKick slot botKick).1.identity.pendingBotKicks =
        w.identity.pendingBotKicks ++
          [{ slot := index
             client := client.addr
             userId := client.userId
             incarnation := w.manager.getIncarnation index }] := by
  unfold queueManagedBotKick at h ⊢
  cases slot with
  | none => cases h
  | some index =>
    dsimp only at h ⊢
    split at h
    · cases h
    · rename_i hm
      rw [if_neg hm]
      cases hc : w.engine.resolveClientBySlot index with
      | none =>
        rw [hc] at h
        cases h
      | some client =>
        rw [hc] at h
        dsimp only at h ⊢
        split at h
        · cases h
        · rename_i hbot
          rw [if_neg hbot]
          exact ⟨index, client, rfl, hc, rfl⟩

theorem userId_of_findManagedSlotByUserId {value : Bytes} {slot : Slot} {client : Client}
    (h : w.findManagedSlotByUserId value = some slot)
    (hc : w.engine.resolveClientBySlot slot = some client) :
    parseUserId value = some client.userId := by
  unfold findManagedSlotByUserId at h
  split at h
  · cases h
  · rename_i userId hparse
    have hfound := List.find?_some h
    rw [hc] at hfound
    have hid : client.userId = userId := by
      simpa using (Bool.and_eq_true_iff.mp hfound).2
    rw [hparse, hid]

/-- A `kickid` queues the bot with the user ID it was given. -/
theorem kickid_requested {args : List Bytes} {botKick : Bool} {kick : PendingBotKick}
    (h : w.queuedByKickid args botKick = some kick) :
    parseUserId (args.headD []) = some kick.userId := by
  unfold World.queuedByKickid at h
  dsimp only at h
  split at h
  · rename_i hsup
    have hpre : w.hookDispatchConCommandPre { name := some "kickid", args } botKick =
        let queued := w.queueManagedBotKick (w.findManagedSlotByUserId (args.headD [])) botKick
        if queued.2 then (queued.1.beginPopulationFrame .command false, true)
        else (w.beginPopulationFrame .command (isKickCommand "kickid" && w.isDisguiseEnabled),
          false) := rfl
    rw [hpre] at h hsup
    dsimp only at h hsup
    split at hsup
    · rename_i hqueued
      obtain ⟨index, client, hslot, hc, hlist⟩ := queueManagedBotKick_queued hqueued
      rw [if_pos hqueued] at h
      change List.getLast? (World.queueManagedBotKick ..).1.identity.pendingBotKicks = _ at h
      rw [hlist, List.getLast?_concat] at h
      cases h
      exact userId_of_findManagedSlotByUserId hslot hc
    · cases hsup
  · cases h

/-! ## Dispatching -/

/-- A kick that is dispatched passed its checks, and goes out under its slot's name. -/
theorem dispatched_checked {fits : Bool} {d : Dispatch}
    (h : (w.drainKick fits).journal.dispatched = d :: w.journal.dispatched) :
    w.names d.kick.slot = some d.name ∧
      ∃ client, w.engine.resolveClientBySlot d.kick.slot = some client ∧
        client.addr = d.kick.client ∧ client.userId = d.kick.userId := by
  unfold drainKick at h
  split at h
  · exact absurd h.symm (List.cons_ne_self d _)
  · rename_i kick rest _
    dsimp only at h
    split at h
    · exact absurd h.symm (List.cons_ne_self d _)
    · rename_i hchecks
      simp only [not_or, Bool.not_eq_true, Bool.not_eq_false'] at hchecks
      obtain ⟨hvalid, hname, -⟩ := hchecks
      obtain rfl := (List.cons.inj h).1
      unfold kickValid at hvalid
      simp only [Bool.and_eq_true] at hvalid
      obtain ⟨⟨hm, hclient⟩, -⟩ := hvalid
      refine ⟨names_eq_some.mpr ⟨hm, rfl, hname⟩, ?_⟩
      cases hc : w.engine.resolveClientBySlot kick.slot with
      | none =>
        rw [hc] at hclient
        cases hclient
      | some client =>
        rw [hc] at hclient
        simp only [Bool.and_eq_true, beq_iff_eq] at hclient
        exact ⟨client, rfl, hclient.1, hclient.2.2⟩

/-! ## Targets -/

/-- The dispatched name is the one the requested user's slot holds, and no other managed
slot's. This is about the names that the plugin keeps for its slots; the name that an engine's
`bot_kick` compares, the client's own, is not looked at. -/
structure World.FindsTarget (w : World) (args : List Bytes) (d : Dispatch) : Prop where
  managed : w.manager.isManaged d.kick.slot = true
  requested : ∃ client, w.engine.resolveClientBySlot d.kick.slot = some client ∧
    client.addr = d.kick.client ∧ parseUserId (args.headD []) = some client.userId
  named : w.manager.getSlotName d.kick.slot = d.name
  alone : ∀ t, t ≠ d.kick.slot → w.manager.isManaged t = true → w.manager.getSlotName t ≠ d.name

/-- When the run ends at a drain that dispatches the kick an earlier `kickid` queued, the
dispatch finds its target. -/
def KickFindsTarget (env : LoadEnv) (es : List Event) : Prop :=
  ∀ pre args botKick post fits d,
    es = pre ++ .dispatchPre { name := some "kickid", args } botKick :: post →
    (World.run env pre).queuedByKickid args botKick = some d.kick →
    ((World.run env es).drainKick fits).journal.dispatched =
      d :: (World.run env es).journal.dispatched →
    (World.run env es).FindsTarget args d

/-- **Deferred kicks.** When every name is unused where it is given, a dispatch for a
`kickid` carries the name of the slot with the requested user ID, and of no other slot. -/
theorem kick_finds_target {env : LoadEnv} {es : List Event} (happlies : env.AppliesNames)
    (hapart : env.NamesApart)
    (ha : Runs.Admits World.step (fun w e => e.AppliesNames ∧ w.NamesApart e) (World.load env) es) :
    KickFindsTarget env es := by
  intro pre args botKick post fits d _ hqueued hdispatched
  have hdistinct := distinct_run happlies hapart ha
  obtain ⟨hname, client, hc, haddr, hid⟩ := dispatched_checked hdispatched
  obtain ⟨hm, htext, hne⟩ := names_eq_some.mp hname
  refine ⟨hm, ⟨client, hc, haddr, ?_⟩, htext, fun t ht hmt hsame => ht ?_⟩
  · rw [kickid_requested hqueued, hid]
  · exact hdistinct t d.kick.slot d.name (names_eq_some.mpr ⟨hmt, hsame, hne⟩) hname

/-- An event that gives no name is apart from all. -/
theorem namesApart_of_none {e : Event} (h : w.given e = none) : w.NamesApart e := by
  intro slot name hgiven
  rw [h] at hgiven
  cases hgiven

/-- A name nobody carries. -/
theorem namesApart_of_some {e : Event} (slot : Slot) (name : Bytes)
    (h : w.given e = some (slot, name)) (hunused : ∀ t, w.names t ≠ some name) :
    w.NamesApart e := by
  intro slot' name' hgiven
  rw [h] at hgiven
  cases hgiven
  exact fun t ht => absurd ht (hunused t)

deriving instance DecidableEq for PendingBotKick, Dispatch

/-- The second bot's kick, under a name. -/
def secondKicked (name : String) : Dispatch where
  kick := { slot := 1, client := 12, userId := 2, incarnation := 7 }
  name := ascii name

/-- A caller has the pool's names used, two bots connect, and the second is to be kicked by
its user ID. -/
def kickByPoolName : List Event :=
  [.bhAttach, .bhSetNameSource 1, botConnects 0, botConnects 1,
    .dispatchPre { name := some "kickid", args := [ascii "2"] } true, .drainBegin true]

/-- The dispatch that follows names the second bot alone. -/
theorem kick_finds_target_pool :
    ((World.run smallServer kickByPoolName).drainKick true).journal.dispatched =
        [secondKicked "beta"] ∧
      (World.run smallServer kickByPoolName).FindsTarget [ascii "2"] (secondKicked "beta") := by
  have hlate : smallServer.late ≠ true := by decide
  have hdispatched : ((World.run smallServer kickByPoolName).drainKick true).journal.dispatched =
      [secondKicked "beta"] := by decide +kernel
  have hnone : (World.run smallServer kickByPoolName).journal.dispatched = [] := by
    decide +kernel
  refine ⟨hdispatched, ?_⟩
  refine kick_finds_target (fun h => absurd h hlate) (fun h => absurd h hlate) ?_
    (kickByPoolName.take 4) [ascii "2"] true [.drainBegin true] true _ rfl (by decide +kernel)
    (by rw [hdispatched, hnone])
  refine ⟨⟨trivial, namesApart_of_none rfl⟩, ⟨trivial, namesApart_of_none rfl⟩, ⟨trivial, ?_⟩,
    ⟨trivial, ?_⟩, ⟨trivial, namesApart_of_none rfl⟩, ⟨trivial, namesApart_of_none rfl⟩, trivial⟩
  · exact namesApart_of_some 0 (ascii "alpha") (by decide +kernel) (by decide +kernel)
  · exact namesApart_of_some 1 (ascii "beta") (by decide +kernel) (by decide +kernel)

/-! ## Namesakes -/

/-- Two bots connect under the engine's one name, and the second is to be kicked by its user
ID. -/
def kickNamesake : List Event :=
  [botConnects 0, botConnects 1,
    .dispatchPre { name := some "kickid", args := [ascii "2"] } true, .drainBegin true]

/-- The dispatch for the second bot names the first as well. -/
theorem namesakes_both_named : ¬ ∀ env es, env.AppliesNames →
    Runs.Admits World.step (fun _ e => e.AppliesNames) (World.load env) es →
    KickFindsTarget env es := by
  intro h
  have hlate : smallServer.late ≠ true := by decide
  have hdispatched : ((World.run smallServer kickNamesake).drainKick true).journal.dispatched =
      [secondKicked "Bob"] := by decide +kernel
  have hnone : (World.run smallServer kickNamesake).journal.dispatched = [] := by decide +kernel
  have hfinds := h smallServer kickNamesake (fun h => absurd h hlate)
    ⟨trivial, trivial, trivial, trivial, trivial⟩ (kickNamesake.take 2) [ascii "2"] true
    [.drainBegin true] true (secondKicked "Bob") rfl (by decide +kernel)
    (by rw [hdispatched, hnone])
  exact hfinds.alone 0 (by decide) (by decide +kernel) (by decide +kernel)

end BotHider.Model
