import BotHider.Registry.Runs

/-!
# BotHider — deferred actions and slot lifetimes

An adoption starts a lifetime of its slot, named by the incarnation it handed out.
Work that is done later carries the incarnation it was meant for: a call of the
bridge, a queued kick, a visible write of the next frame, a background read.

* `World.Inert` — nothing bound to an incarnation does anything to a slot.
* `inert_of_not_alive` — outside its lifetime an incarnation is inert.
* `not_alive_again` — a lifetime that ended does not come back, as long as fewer than
  `2^64 - 1` adoptions were made.
* `lifetimes_kept_apart` — both along every run.
-/

namespace BotHider.Model

open World

variable {w : World} {s : Slot} {g : UInt64}

/-! ## Inert incarnations -/

/-- The slot is in the lifetime the incarnation names. -/
def World.Alive (w : World) (s : Slot) (g : UInt64) : Prop :=
  w.manager.isManaged s = true ∧ w.manager.getIncarnation s = g

/-- Executing what is bound to an incarnation of a slot does nothing: the calls are
refused, a kick is dropped from the list, a visible write is skipped, and a background
read is forgotten. -/
structure World.Inert (w : World) (s : Slot) (g : UInt64) : Prop where
  setSteamId : ∀ steamId alloc, w.bhSetSteamId s.val g steamId alloc = (w, false)
  setName : ∀ call name length, w.bhSetName call s.val g name length = (w, false)
  setCrosshair : ∀ code length, w.bhSetCrosshair s.val g code length = (w, false)
  setFlair : ∀ flair, w.bhSetFlair s.val g flair = (w, false)
  setAvatar : ∀ data length alloc, w.bhSetAvatar s.val g data length alloc = (w, false)
  kick : ∀ kick rest fits, w.draining = kick :: rest → kick.slot = s → kick.incarnation = g →
    w.drainKick fits = { w with draining := rest }
  visibleWrite : ∀ write fault, write.slot = s → write.incarnation = g →
    w.runVisibleWrite write fault = w
  avatarRead : ∀ alloc, (w.bridge.avatarReads s).incarnation = g →
    w.finishAvatarRead alloc s = w ∨ w.finishAvatarRead alloc s = w.setAvatarRead s {}

/-- The slot a call names, in the lifetime it means. -/
theorem alive_of_target {slot : Int} (h : w.target slot g = some s) :
    slotOf slot = some s ∧ w.Alive s g ∧ g ≠ 0 := by
  unfold target validSlot at h
  rw [Option.filter_eq_some_iff] at h
  obtain ⟨hs, hcond⟩ := h
  simp only [Bool.and_eq_true, bne_iff_ne, beq_iff_eq] at hcond
  split at hs
  · exact ⟨hs, ⟨hcond.1, hcond.2.2.symm⟩, hcond.2.1⟩
  · cases hs

theorem target_of_not_alive (h : ¬ w.Alive s g) : w.target s.val g = none := by
  cases ht : w.target s.val g with
  | none => rfl
  | some index =>
    obtain ⟨hs, halive, -⟩ := alive_of_target ht
    rw [slotOf_val, Option.some.injEq] at hs
    rw [← hs] at halive
    exact absurd halive h

/-- A record of the slot that can be read is the manager's. -/
theorem snapshot_of_readSlot {snapshot : SlotSnapshot} (h : w.readSlot s.val = some snapshot) :
    snapshot = (w.manager.slots s).snapshot := by
  unfold readSlot bhGetSlot validSlot at h
  rw [slotOf_val] at h
  split at h
  · cases h
  · split at h
    · exact (Option.some.inj h).symm
    · cases h

/-- A kick of another lifetime is dropped. -/
theorem drainKick_of_stale (hg : g ≠ 0) (h : w.manager.getIncarnation s ≠ g)
    {kick : PendingBotKick} {rest : List PendingBotKick} (hdrain : w.draining = kick :: rest)
    (hslot : kick.slot = s) (hkick : kick.incarnation = g) (fits : Bool) :
    w.drainKick fits = { w with draining := rest } := by
  have hvalid : World.kickValid { w with draining := rest } kick = false := by
    have hmatch : (kick.incarnation == 0 ||
        w.manager.getIncarnation kick.slot == kick.incarnation) = false := by
      rw [hkick, hslot]
      simp [hg, h]
    unfold kickValid
    dsimp only
    rw [hmatch, Bool.and_false]
  unfold drainKick
  rw [hdrain]
  dsimp only
  rw [hvalid]
  exact if_pos (Or.inl rfl)

/-- A visible write of another lifetime is skipped. -/
theorem runVisibleWrite_of_stale (h : w.manager.getIncarnation s ≠ g) {write : VisibleWrite}
    (hslot : write.slot = s) (hwrite : write.incarnation = g) (fault : Option Nat) :
    w.runVisibleWrite write fault = w := by
  unfold runVisibleWrite
  rw [hslot]
  split
  · rfl
  · split
    · rfl
    · rename_i snapshot hread
      have hinc : snapshot.incarnation = w.manager.getIncarnation s :=
        congrArg SlotSnapshot.incarnation (snapshot_of_readSlot hread)
      rw [if_pos (Or.inr (by rwa [hinc, hwrite]))]

/-- A background read of another lifetime is forgotten. -/
theorem finishAvatarRead_of_stale (h : w.manager.getIncarnation s ≠ g)
    (hread : (w.bridge.avatarReads s).incarnation = g) (alloc : Bool) :
    w.finishAvatarRead alloc s = w ∨ w.finishAvatarRead alloc s = w.setAvatarRead s {} := by
  unfold finishAvatarRead
  dsimp only
  split
  · exact Or.inl rfl
  · refine Or.inr ?_
    split
    · rfl
    · rename_i snapshot hsnap
      have hinc : snapshot.incarnation = w.manager.getIncarnation s :=
        congrArg SlotSnapshot.incarnation (snapshot_of_readSlot hsnap)
      rw [if_pos (Or.inl (by rwa [hinc, hread]))]

/-- **Inert incarnations.** Outside its lifetime a nonzero incarnation is inert. -/
theorem inert_of_not_alive (hsane : w.Sane) (hg : g ≠ 0) (h : ¬ w.Alive s g) : w.Inert s g := by
  have htarget := target_of_not_alive h
  have hinc : w.manager.getIncarnation s ≠ g := by
    intro heq
    refine h ⟨?_, heq⟩
    exact (hsane.good.coupled s).incarnation.mpr fun hz => hg (heq.symm.trans hz)
  constructor
  case kick => exact fun kick rest fits hd hs hk => drainKick_of_stale hg hinc hd hs hk fits
  case visibleWrite => exact fun write fault hs hw => runVisibleWrite_of_stale hinc hs hw fault
  case avatarRead => exact fun alloc hr => finishAvatarRead_of_stale hinc hr alloc
  case setSteamId =>
    intros
    unfold bhSetSteamId
    rw [htarget]
  case setName =>
    intros
    unfold bhSetName
    rw [htarget]
  case setCrosshair =>
    intros
    unfold bhSetCrosshair
    rw [htarget]
  case setFlair =>
    intros
    unfold bhSetFlair
    rw [htarget]
  case setAvatar =>
    intros
    unfold bhSetAvatar
    rw [htarget]

/-! ## Lifetimes along runs -/

/-- What a slot holds in the registry's ledger is the incarnation it is alive under. -/
theorem holds_ledger : w.registry.ledger.holds s = some g ↔ w.Alive s g := by
  change (if w.manager.isManaged s then some (w.manager.getIncarnation s) else none) = some g ↔ _
  unfold Alive
  split <;> simp_all

/-- Along every run the incarnation of a managed slot was handed out. -/
theorem ledger_sound_run (env : LoadEnv) (es : List Event) :
    (World.run env es).registry.ledger.Sound := by
  have h0 : (World.loading env).registry.ledger.Sound := by
    intro s g h
    obtain ⟨hm, -⟩ := holds_ledger.mp h
    rw [isManaged_loading env s] at hm
    cases hm
  exact Runs.path_invariant h0 (fun _ _ hs hstep => hstep.sound hs)
    (Registry.ledger_path ((load_path env).trans (exec_path (sane_load env) es)))

/-- A lifetime that ended does not come back. -/
theorem not_alive_again (env : LoadEnv) {es₁ es₂ es₃ : List Event}
    (hbound : (World.run env (es₁ ++ es₂ ++ es₃)).journal.issued.length < 2 ^ 64 - 1)
    (halive : (World.run env es₁).Alive s g) (hended : ¬ (World.run env (es₁ ++ es₂)).Alive s g) :
    ¬ (World.run env (es₁ ++ es₂ ++ es₃)).Alive s g := by
  have h12 : World.run env (es₁ ++ es₂) = Runs.exec World.step (World.run env es₁) es₂ :=
    Runs.exec_append ..
  have h23 : World.run env (es₁ ++ es₂ ++ es₃) =
      Runs.exec World.step (World.run env (es₁ ++ es₂)) es₃ := Runs.exec_append ..
  have hissued : g ∈ (World.run env (es₁ ++ es₂)).registry.ledger.issued := by
    have hpath := Registry.ledger_path (exec_path (sane_run env es₁) es₂)
    rw [← h12] at hpath
    exact (Token.issued_suffix hpath).subset (ledger_sound_run env es₁ s g (holds_ledger.mpr halive))
  have hpath := Registry.ledger_path (exec_path (sane_run env (es₁ ++ es₂)) es₃)
  rw [← h23] at hpath
  have hagain := Token.not_held_again hpath ((counted_run env _).issued hbound).1 hissued
    fun hheld => hended (holds_ledger.mp hheld)
  exact fun hc => hagain (holds_ledger.mpr hc)

/-- **Lifetimes stay apart.** In every run with fewer than `2^64 - 1` adoptions, the
incarnations handed out are nonzero and pairwise distinct, and once a lifetime of a slot
ended, whatever happened since, executing what is bound to it does nothing. -/
theorem lifetimes_kept_apart (env : LoadEnv) (es : List Event)
    (hbound : (World.run env es).journal.issued.length < 2 ^ 64 - 1) :
    (World.run env es).journal.issued.Nodup ∧ (0 : UInt64) ∉ (World.run env es).journal.issued ∧
    ∀ (es₁ es₂ es₃ : List Event) (s : Slot) (g : UInt64), es = es₁ ++ es₂ ++ es₃ →
      (World.run env es₁).Alive s g → ¬ (World.run env (es₁ ++ es₂)).Alive s g →
      (World.run env es).Inert s g := by
  obtain ⟨hnodup, hzero⟩ := (counted_run env es).issued hbound
  refine ⟨hnodup, hzero, fun es₁ es₂ es₃ s g hes halive hended => ?_⟩
  subst hes
  have hg : g ≠ 0 := by
    rintro rfl
    have := ((sane_run env es₁).good.coupled s).incarnation.mp halive.1
    exact this halive.2
  exact inert_of_not_alive (sane_run env _) hg (not_alive_again env hbound halive hended)

/-- A bot leaves slot `0` and comes back, under the same pointer, user ID and name: the
first lifetime's incarnation sets no SteamID on it. -/
theorem lifetimes_kept_apart_reconnect :
    (World.run smallServer [botConnects 0, .clientDisconnect 0 false, botConnects 0,
      .bhAttach]).bhSetSteamId 0 6 76561197960265999 true =
    (World.run smallServer [botConnects 0, .clientDisconnect 0 false, botConnects 0,
      .bhAttach], false) :=
  ((lifetimes_kept_apart smallServer [botConnects 0, .clientDisconnect 0 false, botConnects 0,
    .bhAttach] (by decide +kernel)).2.2 [botConnects 0] [.clientDisconnect 0 false]
    [botConnects 0, .bhAttach] 0 6 rfl ⟨by decide +kernel, by decide +kernel⟩
    (fun h => absurd h.1 (by decide +kernel))).setSteamId 76561197960265999 true

end BotHider.Model
