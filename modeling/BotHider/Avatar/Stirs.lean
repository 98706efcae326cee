import BotHider.Registry.Runs

/-!
# BotHider — what happens to requests between passes

Outside passes and level changes nothing touches the avatar module, and a slot's request
either stays with what is published of it, or is a new one of which nothing is published
(`stirs_step`).
-/

namespace BotHider.Model

open World

/-! ## Stirred holdings -/

/-- The slot's request was replaced, and nothing is published of the new one. -/
def Holding.Renewed (h h' : Holding) : Prop :=
  h'.request.sequence = h.request.sequence + 1 ∧ h'.avatarApplied = false

/-- The slot's request and what is published of it stayed, or the request was replaced. -/
def Holding.Stirred (h h' : Holding) : Prop :=
  (h'.request = h.request ∧ h'.avatarApplied = h.avatarApplied ∧
    h'.avatarSteamId = h.avatarSteamId) ∨ h.Renewed h'

theorem Holding.Stirred.refl (h : Holding) : h.Stirred h := Or.inl ⟨rfl, rfl, rfl⟩

theorem stirred_set {r : Registry} {slot : Slot} {h : Holding}
    (hs : (r.holding slot).Stirred h) (t : Slot) :
    (r.holding t).Stirred ((r.set slot h).holding t) := by
  rcases eq_or_ne t slot with rfl | ht
  · rwa [Registry.set_holding_self]
  · rw [Registry.set_holding_of_ne r ht]
    exact .refl _

theorem Registry.Lease.stirred {r r' : Registry} (h : Registry.Lease r r') (t : Slot) :
    (r.holding t).Stirred (r'.holding t) := by
  cases h with
  | adopt slot entry steamId name =>
    rcases eq_or_ne t slot with rfl | ht
    · rw [Registry.adopt_holding_self]
      exact Or.inr ⟨rfl, rfl⟩
    · rw [Registry.adopt_holding_of_ne r ht]
      exact .refl _
  | release slot =>
    rcases eq_or_ne t slot with rfl | ht
    · rw [Registry.release_holding_self]
      exact Or.inr ⟨rfl, rfl⟩
    · rw [Registry.release_holding_of_ne r ht]
      exact .refl _
  | releaseAll => exact Or.inr ⟨rfl, rfl⟩
  | renumber slot steamId =>
    exact stirred_set (h := { r.holding slot with steamId := steamId })
      (Or.inl ⟨rfl, rfl, rfl⟩) t
  | rename slot name =>
    exact stirred_set (h := { r.holding slot with name := name }) (Or.inl ⟨rfl, rfl, rfl⟩) t

/-- A move replaces requests, at most once each, or leaves them. -/
theorem Registry.Move.stirred {r r' : Registry} (h : Registry.Move r r') (t : Slot) :
    (r.holding t).Stirred (r'.holding t) := by
  cases h with
  | lease h => exact h.stirred t
  | request slot data => exact stirred_set (Or.inr ⟨rfl, rfl⟩) t

/-- The avatar module is untouched, and each slot stirred at most once. -/
structure World.Stirs (w w' : World) : Prop where
  avatar : w'.avatar = w.avatar
  slots : ∀ s, (w.registry.holding s).Stirred (w'.registry.holding s)

theorem World.Hop.stirred {w w' : World} (h : w.Hop w') (s : Slot) :
    (w.registry.holding s).Stirred (w'.registry.holding s) := by
  unfold World.Hop at h
  generalize w'.registry = r' at h
  cases h with
  | refl => exact .refl _
  | single h => exact h.stirred s

/-! ## The avatar module outside passes -/

theorem avatar_of_hull {w w' : World} (h : w'.hull = w.hull) : w'.avatar = w.avatar :=
  (congrArg World.avatar h : w'.hull.avatar = w.hull.avatar)

/-- The events that touch the avatar module. -/
def Event.passes : Event → Bool
  | .tables _ | .processOverrides _ | .startChangeLevel _ | .levelInit _ | .levelShutdown _ => true
  | _ => false

variable {w : World}

theorem avatar_step (hl : w.plugin.loaded = true) {e : Event} (h : e.passes = false) :
    (w.step e).avatar = w.avatar := by
  cases hc : e.configures with
  | false => exact congrArg Setup.avatar (setup_step hl hc)
  | true =>
    cases e with
    | bhSetMode gate mode => exact avatar_of_hull (hull_bhSetMode w gate mode)
    | tables => cases h
    | processOverrides => cases h
    | startChangeLevel => cases h
    | levelInit => cases h
    | levelShutdown => cases h
    | _ => cases hc

/-! ## Stirring events -/

/-- A call that reaches a slot is for the slot it names. -/
theorem slotOf_of_target {slot : Int} {incarnation : UInt64} {index : Slot}
    (h : w.target slot incarnation = some index) : slotOf slot = some index := by
  unfold target validSlot at h
  obtain ⟨h, -⟩ := Option.filter_eq_some_iff.mp h
  split at h
  · exact h
  · cases h

theorem target_val {slot index : Slot} {incarnation : UInt64}
    (h : w.target slot.val incarnation = some index) : index = slot :=
  Option.some.inj ((slotOf_of_target h).symm.trans (slotOf_val slot))

/-- What `BH_SetAvatar` can do: replace its target's request by the bytes it is given, or
nothing. -/
theorem bhSetAvatar_cases (w : World) (slot : Int) (incarnation : UInt64) (data : Option Bytes)
    (length : Int) (alloc : Bool) :
    (∃ index, w.target slot incarnation = some index ∧
      w.bhSetAvatar slot incarnation data length alloc =
        (w.withManager (w.manager.setAvatarRequest index
          ((data.map (List.take length.toNat)).getD [])), true)) ∨
    w.bhSetAvatar slot incarnation data length alloc = (w, false) := by
  unfold bhSetAvatar
  cases h : w.target slot incarnation with
  | none => exact Or.inr rfl
  | some index =>
    dsimp only
    split
    · exact Or.inr rfl
    · split
      · exact Or.inr rfl
      · exact Or.inl ⟨index, rfl, rfl⟩

theorem slots_setAvatarRequest_of_ne {m : FakeClientManager} {slot t : Slot} (h : t ≠ slot)
    (data : Bytes) : (m.setAvatarRequest slot data).slots t = m.slots t := by
  unfold FakeClientManager.setAvatarRequest FakeClientManager.publishAvatarState
  rw [FakeClientManager.modifySnapshot_slots_of_ne _ h, m.setSlot_slots_of_ne h]

theorem holding_finishAvatarRead_of_ne (w : World) (alloc : Bool) {slot t : Slot} (h : t ≠ slot) :
    (w.finishAvatarRead alloc slot).registry.holding t = w.registry.holding t := by
  unfold finishAvatarRead
  dsimp only
  split
  · rfl
  · split
    · rfl
    · split
      · rfl
      · split
        · rfl
        · rename_i bytes _
          rcases bhSetAvatar_cases (w.setAvatarRead slot {}) slot.val
            (w.bridge.avatarReads slot).incarnation (some bytes) bytes.length alloc with
            ⟨index, htarget, hw⟩ | hw
          · rw [hw, target_val htarget]
            exact congrArg (Holding.of · _) (slots_setAvatarRequest_of_ne h _)
          · rw [hw]
            rfl

/-- **Step lemma.** Between passes an event leaves the avatar module alone, and replaces
each slot's request at most once. -/
theorem stirs_step (h : w.Sane) {e : Event} (he : e.passes = false) : w.Stirs (w.step e) := by
  refine ⟨avatar_step h.loaded he, fun s => ?_⟩
  cases ha : e.avatars with
  | false => exact (step_hop h.good h.loaded ha).stirred s
  | true =>
    cases e with
    | finishAvatarReads alloc =>
      -- a slot's request is replaced in the slot's own round only
      obtain ⟨v, -, hbefore, hafter⟩ := Sweep.foldl_view (p := fun _ : World => True)
        (v := fun (v : World) t => v.registry.holding t)
        (f := fun v slot => v.finishAvatarRead (alloc slot) slot) (fun _ _ _ => trivial)
        (fun v slot t _ hst => holding_finishAvatarRead_of_ne v _ (Ne.symm hst)) allSlots_nodup
        (mem_allSlots s) (s := w) trivial
      have hround := (hop_finishAvatarRead v (alloc s) s).stirred s
      rw [hbefore] at hround
      rwa [World.step, finishAvatarReads, hafter]
    | processOverrides => cases he
    | startChangeLevel => cases he
    | levelInit => cases he
    | levelShutdown => cases he
    | _ => cases ha

end BotHider.Model
