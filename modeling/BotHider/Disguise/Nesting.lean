import BotHider.Disguise.Marks
import BotHider.Lib.Run
import BotHider.Model.System

/-!
# BotHider — nested scopes merge exactly

Scopes of `ScopedBotIdentityRestore` open and close inside one another while the engine
writes to the same words. The outermost scope a slot is in makes it look like a bot, and the
scopes inside find it so: they have nothing to take back (`Inert`).

* `Scopes`, `Scopes.step` — the open scopes, over the engine they work on.
* `inside_latest` — but for the marks, the engine inside a scope is the one it was last.
* `client_inside`, `controller_inside` — what a slot that stays looks like inside a scope.
* `scopes_merge` — what opening a scope changes, what closing it brings back, and what the two
  leave alone.
-/

namespace BotHider.Model

open Engine

variable {m : FakeClientManager} {e : Engine}

/-! ## One client, whoever shares its controller -/

/-- A snapshot of a client, and of its controller where that is alive. -/
def BotIdentitySnapshot.Notes (snapshot : BotIdentitySnapshot) (e : Engine) (t : Slot)
    (c : Client) : Prop :=
  snapshot = .ofClient c ∨ ∃ k k₀, snapshot = (BotIdentitySnapshot.ofClient c).withController k ∧
    e.controllerAt t = some k₀ ∧ k.identity = k₀.identity ∧ k.beingDeleted = false

/-- What `Capture` does to the client of a managed slot, and what it notes of it. -/
theorem capture_client {t : Slot} {c : Client} (hm : m.isManaged t = true)
    (hc : e.resolveClientBySlot t = some c) :
    (capture m e).1.resolveClientBySlot t = some c.setFakePlayer ∧
      ((capture m e).2 t).Notes e t c := by
  obtain ⟨s, hagree, hview, hres⟩ := Sweep.foldl_at (f := captureSlot m) (j := t)
    (p := fun s => SameButFlags e s.1) (v := fun s => (s.1.resolveClientBySlot t, s.2 t))
    (fun s slot hs => hs.trans (agree_captureSlot s slot))
    (fun s slot _ hst => Prod.ext
      ((only_captureSlot s slot).client t fun heq => hst (Fin.ext heq).symm)
      (snapshot_captureSlot_of_ne hst))
    allSlots_nodup (mem_allSlots t) (s := (e, fun _ => {})) (.refl _ e)
  simp only [Prod.mk.injEq] at hview hres
  have hsc : s.1.resolveClientBySlot t = some c := hview.1.trans hc
  have hset : (s.1.modifyClient t Client.setFakePlayer).resolveClientBySlot t =
      some c.setFakePlayer := by
    rw [resolveClientBySlot_modifyClient_self, hsc]
    rfl
  unfold capture
  rw [hres.1, hres.2]
  unfold captureSlot
  rw [hm, hsc]
  simp only [Bool.not_true, Bool.false_eq_true, if_false]
  split
  · exact ⟨hset, Or.inl (Function.update_self ..)⟩
  · rename_i k hk
    split
    · exact ⟨hset, Or.inl (Function.update_self ..)⟩
    · rename_i hlive
      have hk' : s.1.controllerAt t = some k := by
        rw [controllerAt, hsc, Option.bind_some, ← hk, resolveController_modifyClient]
      obtain ⟨k₀, hk₀, hid⟩ := hagree.entityIndex.exists_controller hk'
      exact ⟨hset, Or.inr ⟨k, k₀, Function.update_self .., hk₀, hid, by simpa using hlive⟩⟩

/-- A slot that is not managed, or does not resolve, is not captured. -/
theorem snapshot_capture_of_not {t : Slot}
    (h : m.isManaged t = false ∨ e.resolveClientBySlot t = none) : (capture m e).2 t = {} := by
  obtain ⟨s, -, hview, hres⟩ := Sweep.foldl_at (f := captureSlot m) (j := t)
    (p := fun _ => True) (v := fun s => (s.1.resolveClientBySlot t, s.2 t))
    (fun _ _ _ => trivial)
    (fun s slot _ hst => Prod.ext
      ((only_captureSlot s slot).client t fun heq => hst (Fin.ext heq).symm)
      (snapshot_captureSlot_of_ne hst))
    allSlots_nodup (mem_allSlots t) (s := (e, fun _ => {})) trivial
  simp only [Prod.mk.injEq] at hview hres
  have hbody : captureSlot m s t = s := by
    unfold captureSlot
    rcases h with h | h
    · rw [h]
      rfl
    · rw [hview.1, h]
      split <;> rfl
  unfold capture
  rw [hres.2, hbody]
  exact hview.2

/-- What `Restore` does to a client: the merge, where the slot is managed and bound. -/
theorem restore_client (m : FakeClientManager) (snapshots : ScopedBotIdentityRestore)
    (e : Engine) (t : Slot) :
    (restore m snapshots e).resolveClientBySlot t = (e.resolveClientBySlot t).map fun c =>
      if m.isManaged t = true ∧ (snapshots t).Bound c then (snapshots t).mergeClient c else c := by
  obtain ⟨e', hview, hres⟩ := sweep_client (only_restoreSlot (m := m) snapshots) e t
  rw [restore, hres, ← hview]
  unfold restoreSlot
  cases hm : m.isManaged t with
  | false => simp
  | true =>
    simp only [Bool.not_true, Bool.false_eq_true, if_false, true_and]
    cases hc : e'.resolveClientBySlot t with
    | none => exact hc
    | some c =>
      have hset : (e'.modifyClient t (snapshots t).mergeClient).resolveClientBySlot t =
          some ((snapshots t).mergeClient c) := by
        rw [resolveClientBySlot_modifyClient_self, hc]
        rfl
      dsimp only
      by_cases hb : (snapshots t).Bound c
      · rw [if_neg (not_not.mpr hb), Option.map_some, if_pos hb]
        split
        · exact hset
        · split
          · exact hset
          · exact hset
      · rw [if_pos hb, Option.map_some, if_neg hb]
        exact hc

/-- A client that is not the one captured in a managed slot is as it was. -/
theorem clients_restore {snapshots : ScopedBotIdentityRestore} {i : Nat}
    (h : ∀ t : Slot, t.val = i → ∀ c, e.resolveClientBySlot t = some c →
      ¬ (m.isManaged t = true ∧ (snapshots t).Bound c)) :
    (restore m snapshots e).resolveClientBySlot i = e.resolveClientBySlot i := by
  refine Sweep.foldl_invariant
    (P := fun e' : Engine => e'.resolveClientBySlot i = e.resolveClientBySlot i) rfl
    fun e' t _ hclient => ?_
  by_cases ht : t.val = i
  · subst ht
    have hskip : restoreSlot m snapshots e' t = e' := by
      unfold restoreSlot
      dsimp only
      split
      · rfl
      · rename_i hm
        split
        · rfl
        · rename_i c hc
          refine if_pos fun hb => h t rfl c (hclient.symm.trans hc) ⟨by simpa using hm, hb⟩
    rw [hskip]
    exact hclient
  · exact ((only_restoreSlot snapshots e' t).client i (Ne.symm ht)).trans hclient

/-- A client's controller that was not written yet was the client's controller before. -/
theorem exists_controlled {e e' : Engine} (hagree : SameButFlags e e') {t : Nat} {c' : Client}
    {k : Entity} (hc' : e'.resolveClientBySlot t = some c')
    (hk : e'.resolveController c' = some k)
    (hentity : e'.entities c'.entityIndex.toNat = e.entities c'.entityIndex.toNat) :
    ∃ c, e.resolveClientBySlot t = some c ∧ c'.identity = c.identity ∧
      e.resolveController c = some k := by
  obtain ⟨c, hc, hid⟩ := hagree.exists_client hc'
  have hindex : c'.entityIndex = c.entityIndex := (congrArg Client.entityIndex hid : _)
  obtain ⟨hres, hcls⟩ := (e'.resolveController_eq_some).mp hk
  refine ⟨c, hc, hid, (e.resolveController_eq_some).mpr ⟨?_, hcls⟩⟩
  rw [← hindex, ← hres]
  unfold resolveEntityInstance
  rw [hentity, hagree.entitySystem]

/-- The slot's client is bound and has the entity, which is the controller captured: the
only way a close writes to an entity. -/
def WritesEntity (m : FakeClientManager) (snapshots : ScopedBotIdentityRestore) (e : Engine)
    (t : Slot) (i : Nat) : Prop :=
  m.isManaged t = true ∧ ∃ c k, e.resolveClientBySlot t = some c ∧ (snapshots t).Bound c ∧
    c.entityIndex.toNat = i ∧ e.resolveController c = some k ∧ (snapshots t).BoundController k

/-- An entity no slot writes to is as it was. -/
theorem entities_restore {snapshots : ScopedBotIdentityRestore} {i : Nat}
    (h : ∀ t, ¬ WritesEntity m snapshots e t i) :
    (restore m snapshots e).entities i = e.entities i := by
  have hinv : SameButFlags e (restore m snapshots e) ∧
      (restore m snapshots e).entities i = e.entities i := by
    refine Sweep.foldl_invariant (P := fun e' => SameButFlags e e' ∧ e'.entities i = e.entities i)
      ⟨.refl _ _, rfl⟩ fun e' t _ ⟨hagree, hentity⟩ => ⟨hagree.trans
        (agree_restoreSlot snapshots e' t), ?_⟩
    unfold restoreSlot
    dsimp only
    split
    · exact hentity
    · rename_i hm
      split
      · exact hentity
      · rename_i c' hc'
        split
        · exact hentity
        · rename_i hbound
          split
          · exact hentity
          · rename_i k hk
            split
            · exact hentity
            · rename_i hcontroller
              have hne : i ≠ c'.entityIndex.toNat := by
                rintro rfl
                obtain ⟨c, hc, hid, hcontrolled⟩ := exists_controlled hagree hc' hk hentity
                have haddr : c'.addr = c.addr := (congrArg Client.addr hid : _)
                have huser : c'.userId = c.userId := (congrArg Client.userId hid : _)
                have hindex : c'.entityIndex = c.entityIndex :=
                  (congrArg Client.entityIndex hid : _)
                refine h t ⟨by simpa using hm, c, k, hc, ?_, hindex ▸ rfl, hcontrolled,
                  not_not.mp hcontroller⟩
                have hb := not_not.mp hbound
                unfold BotIdentitySnapshot.Bound at hb ⊢
                rw [← haddr, ← huser]
                exact hb
              exact (Function.update_of_ne hne _ _).trans hentity
  exact hinv.2

/-- A slot that is not managed keeps its client while a scope opens. -/
theorem clients_capture {i : Nat} (h : ∀ t : Slot, t.val = i → m.isManaged t = false) :
    (capture m e).1.resolveClientBySlot i = e.resolveClientBySlot i := by
  refine Sweep.foldl_invariant (P := fun s : Engine × ScopedBotIdentityRestore =>
    s.1.resolveClientBySlot i = e.resolveClientBySlot i) rfl fun s t _ hclient => ?_
  by_cases ht : t.val = i
  · have hskip : captureSlot m s t = s := by
      unfold captureSlot
      rw [h t ht]
      rfl
    rw [hskip]
    exact hclient
  · exact ((only_captureSlot s t).client i (Ne.symm ht)).trans hclient

/-- The entity is the live controller of the slot's client, and the slot is managed: the only
way an opening writes to an entity. -/
def MarksEntity (m : FakeClientManager) (e : Engine) (t : Slot) (i : Nat) : Prop :=
  m.isManaged t = true ∧ ∃ c k, e.resolveClientBySlot t = some c ∧ c.entityIndex.toNat = i ∧
    e.resolveController c = some k ∧ k.beingDeleted = false

/-- Any other entity is as it was. -/
theorem entities_capture {i : Nat} (h : ∀ t, ¬ MarksEntity m e t i) :
    (capture m e).1.entities i = e.entities i := by
  have hinv : SameButFlags e (capture m e).1 ∧ (capture m e).1.entities i = e.entities i := by
    refine Sweep.foldl_invariant (P := fun s : Engine × ScopedBotIdentityRestore =>
      SameButFlags e s.1 ∧ s.1.entities i = e.entities i) ⟨.refl _ _, rfl⟩
      fun s t _ ⟨hagree, hentity⟩ => ⟨hagree.trans (agree_captureSlot s t), ?_⟩
    unfold captureSlot
    split
    · exact hentity
    · rename_i hm
      split
      · exact hentity
      · rename_i c' hc'
        dsimp only
        split
        · exact hentity
        · rename_i k hk
          split
          · exact hentity
          · rename_i hlive
            have hne : i ≠ c'.entityIndex.toNat := by
              rintro rfl
              obtain ⟨c, hc, hid, hcontrolled⟩ := exists_controlled hagree hc' hk hentity
              have hindex : c'.entityIndex = c.entityIndex :=
                (congrArg Client.entityIndex hid : _)
              exact h t ⟨by simpa using hm, c, k, hc, hindex ▸ rfl, hcontrolled,
                by simpa using hlive⟩
            exact (Function.update_of_ne hne _ _).trans hentity
  exact hinv.2

/-! ## Scopes -/

/-- The engine and the slots, with the snapshots of the open scopes, newest first. -/
structure Scopes where
  manager : FakeClientManager
  engine : Engine
  scopes : List ScopedBotIdentityRestore := []

/-- A scope opens or closes, or slots and the engine's memory change. -/
inductive ScopeCall
  | opens
  | closes
  | evolve (m : FakeClientManager) (e : Engine)

/-- The engine writes to none of the bits a scope changes, in clients and controllers that
stay. -/
structure KeepsMarks (e e' : Engine) : Prop where
  client : ∀ (t : Slot) c c', e.resolveClientBySlot t = some c →
    e'.resolveClientBySlot t = some c' → c'.addr = c.addr → c'.userId = c.userId →
      c'.fakePlayer = c.fakePlayer ∧
      c'.connectionFlags.getLsbD 0 = c.connectionFlags.getLsbD 0 ∧
      c'.connectionFlags.getLsbD 3 = c.connectionFlags.getLsbD 3
  controller : ∀ (t : Slot) k k', e.controllerAt t = some k → e'.controllerAt t = some k' →
    k'.addr = k.addr → k'.handle = k.handle → k'.fakeClient = k.fakeClient

/-- The engine as it last was before a call. -/
def ScopeCall.given (e : Engine) : ScopeCall → Engine
  | .evolve _ e' => e'
  | _ => e

/-- A write to the other bits of a client keeps the marks. -/
theorem keepsMarks_modifyClient (e : Engine) (slot : Nat) {u : Client → Client}
    (hindex : ∀ c, (u c).entityIndex = c.entityIndex)
    (hu : ∀ c, (u c).fakePlayer = c.fakePlayer ∧
      (u c).connectionFlags.getLsbD 0 = c.connectionFlags.getLsbD 0 ∧
      (u c).connectionFlags.getLsbD 3 = c.connectionFlags.getLsbD 3) :
    KeepsMarks e (e.modifyClient slot u) := by
  refine ⟨fun t c c' hc hc' _ _ => ?_, fun t k k' hk hk' _ _ => ?_⟩
  · by_cases ht : t.val = slot
    · rw [← ht, resolveClientBySlot_modifyClient_self, hc] at hc'
      obtain rfl := Option.some.inj hc'
      exact hu c
    · rw [resolveClientBySlot_modifyClient_of_ne _ ht, hc] at hc'
      obtain rfl := Option.some.inj hc'
      exact ⟨rfl, rfl, rfl⟩
  · rw [controllerAt_modifyClient e slot t hindex, hk] at hk'
    obtain rfl := Option.some.inj hk'
    rfl

namespace Scopes

/-- One call; closing destroys the newest scope. -/
def step (s : Scopes) : ScopeCall → Scopes
  | .opens =>
    let captured := capture s.manager s.engine
    { s with engine := captured.1, scopes := captured.2 :: s.scopes }
  | .closes =>
    match s.scopes with
    | [] => s
    | snapshots :: scopes => { s with engine := restore s.manager snapshots s.engine, scopes }
  | .evolve manager engine => { s with manager, engine }

/-- Inside a scope above `depth` others: that scope stays open, and the engine keeps the
marks. -/
def Inside (depth : Nat) (s : Scopes) : ScopeCall → Prop
  | .opens => True
  | .closes => depth + 1 < s.scopes.length
  | .evolve _ e => KeepsMarks s.engine e

/-- A property of a world before a scope and of every world inside it. -/
def Throughout (s : Scopes) (inner : List ScopeCall) (P : Scopes → Prop) : Prop :=
  P s ∧ ∀ pre, pre <+: inner → P (Runs.exec step (s.step .opens) pre)

/-- The slot is managed, and its client is this one. -/
def Stays (t : Slot) (addr : Nat) (userId : UInt16) (s : Scopes) : Prop :=
  s.manager.isManaged t = true ∧ ∃ c, s.engine.resolveClientBySlot t = some c ∧
    c.addr = addr ∧ c.userId = userId

/-- And its client has this controller, alive. -/
def HasController (t : Slot) (addr : Nat) (userId : UInt16) (caddr : Nat) (handle : UInt32)
    (s : Scopes) : Prop :=
  s.Stays t addr userId ∧ ∃ k, s.engine.controllerAt t = some k ∧ k.addr = caddr ∧
    k.handle = handle ∧ k.beingDeleted = false

end Scopes

/-! ## Inside a scope -/

/-- A snapshot that takes nothing back from a slot that looks like a bot. -/
structure BotIdentitySnapshot.Inert (snapshot : BotIdentitySnapshot) : Prop where
  flags : snapshot.connectionFlagsMask = 0
  fakePlayer : snapshot.fakePlayer = 1

theorem BotIdentitySnapshot.Inert.mergeClient {snapshot : BotIdentitySnapshot}
    (h : snapshot.Inert) (c : Client) : snapshot.mergeClient c = c := by
  unfold BotIdentitySnapshot.mergeClient
  rw [h.flags, h.fakePlayer, Mask.merge_zero]
  rfl

/-- The bits `SetFakePlayer` leaves. -/
theorem getLsbD_setFakePlayer (c : Client) {i : Nat} (hi : i < 8) :
    c.setFakePlayer.connectionFlags.getLsbD i =
      if i = 3 then true else if i = 0 then false else c.connectionFlags.getLsbD i := by
  unfold Client.setFakePlayer
  interval_cases i <;> simp

/-- Marking a client that looks like a bot changes nothing. -/
theorem Client.LooksBot.setFakePlayer {c : Client} (h : c.LooksBot) : c.setFakePlayer = c := by
  obtain ⟨hbyte, h3, h0⟩ := h
  have hflags : c.setFakePlayer.connectionFlags = c.connectionFlags := by
    refine BitVec.eq_of_getLsbD_eq fun i hi => ?_
    rw [getLsbD_setFakePlayer c hi]
    split
    · rename_i h
      rw [h, h3]
    · split
      · rename_i h
        rw [h, h0]
      · rfl
  have hset : c.setFakePlayer = { c with
      connectionFlags := c.setFakePlayer.connectionFlags, fakePlayer := 1 } := rfl
  rw [hset, hflags, ← hbyte]

theorem inert_ofClient {c : Client} (h : c.LooksBot) : (BotIdentitySnapshot.ofClient c).Inert := by
  refine ⟨?_, h.1⟩
  unfold BotIdentitySnapshot.ofClient
  rw [h.setFakePlayer]
  exact BitVec.xor_self

theorem KeepsMarks.looksBot {e e' : Engine} (h : KeepsMarks e e') {t : Slot} {c c' : Client}
    (hc : e.resolveClientBySlot t = some c) (hc' : e'.resolveClientBySlot t = some c')
    (haddr : c'.addr = c.addr) (huser : c'.userId = c.userId) (hbot : c.LooksBot) :
    c'.LooksBot := by
  obtain ⟨hbyte, h0, h3⟩ := h.client t c c' hc hc' haddr huser
  exact ⟨hbyte.trans hbot.1, h3.trans hbot.2.1, h0.trans hbot.2.2⟩

variable {t : Slot} {addr : Nat} {userId : UInt16} {handle : UInt32} {s v : Scopes}
  {base : List ScopedBotIdentityRestore}

/-- A scope that closes inside was opened there: the one that is open all along stays. -/
theorem Scopes.Inside.closes {newer : List ScopedBotIdentityRestore}
    (hin : Scopes.Inside (base.length - 1) v .closes) (hscopes : v.scopes = newer ++ base) :
    ∃ snapshots rest, newer = snapshots :: rest ∧ v.step .closes =
      { v with engine := restore v.manager snapshots v.engine, scopes := rest ++ base } := by
  cases newer with
  | nil =>
    have hlen : base.length - 1 + 1 < v.scopes.length := hin
    rw [hscopes, List.nil_append] at hlen
    omega
  | cons snapshots rest =>
    refine ⟨snapshots, rest, rfl, ?_⟩
    unfold Scopes.step
    rw [hscopes]
    rfl

/-- **Run lemma.** Scopes that open and close inside another write to marks only: all else in
the engine is as it was given last. -/
theorem inside_latest {newer : List ScopedBotIdentityRestore} {calls : List ScopeCall}
    (hscopes : v.scopes = newer ++ base)
    (hmarks : ∀ snapshots ∈ newer, ∀ t, (snapshots t).MarksOnly) (hsame : e.SameButMarks v.engine)
    (hin : Runs.Admits Scopes.step (Scopes.Inside (base.length - 1)) v calls) :
    (calls.foldl ScopeCall.given e).SameButMarks (Runs.exec Scopes.step v calls).engine := by
  induction calls generalizing v e newer with
  | nil => exact hsame
  | cons c calls ih =>
    obtain ⟨hc, hrest⟩ := hin
    rw [Runs.exec_cons, List.foldl_cons]
    cases c with
    | opens =>
      obtain ⟨hframe, hnotes⟩ := sameButMarks_capture v.manager v.engine
      have hopened : (v.step .opens).scopes =
          ((capture v.manager v.engine).2 :: newer) ++ base := congrArg _ hscopes
      refine ih hopened (fun snapshots hs => ?_) (hsame.trans hframe) hrest
      rcases List.mem_cons.mp hs with rfl | hs
      · exact hnotes
      · exact hmarks snapshots hs
    | closes =>
      obtain ⟨snapshots, rest, rfl, hstep⟩ := hc.closes hscopes
      rw [hstep] at hrest ⊢
      exact ih rfl (fun sn hs => hmarks sn (List.mem_cons_of_mem _ hs))
        (hsame.trans (sameButMarks_restore v.manager (hmarks snapshots List.mem_cons_self) _)) hrest
    | evolve m e' => exact ih hscopes hmarks (.refl e') hrest

/-- **Run lemma.** Where the engine never lets two clients have one controller, no scope ever
finds it so. -/
theorem separate_run {calls : List ScopeCall} (hsep : v.engine.SeparateControllers)
    (hengine : ∀ m e, ScopeCall.evolve m e ∈ calls → e.SeparateControllers) :
    (Runs.exec Scopes.step v calls).engine.SeparateControllers := by
  induction calls generalizing v with
  | nil => exact hsep
  | cons c calls ih =>
    refine ih ?_ fun m e he => hengine m e (List.mem_cons_of_mem _ he)
    cases c with
    | opens => exact (agree_capture v.manager v.engine).entityIndex.separateControllers hsep
    | closes =>
      unfold Scopes.step
      dsimp only
      split
      · exact hsep
      · exact (agree_restore _ _ v.engine).entityIndex.separateControllers hsep
    | evolve m e => exact hengine m e List.mem_cons_self

/-- Above the scopes `base` a slot that stays looks like a bot, and the snapshots of the
scopes opened since take nothing back from it. -/
def Scopes.ClientMarked (base : List ScopedBotIdentityRestore) (t : Slot) (v : Scopes) : Prop :=
  ∃ newer, v.scopes = newer ++ base ∧ (∀ snapshots ∈ newer, (snapshots t).Inert) ∧
    ∀ c, v.engine.resolveClientBySlot t = some c → c.LooksBot

theorem Scopes.ClientMarked.step (h : v.ClientMarked base t) {c : ScopeCall}
    (hstay : v.Stays t addr userId) (hstay' : (v.step c).Stays t addr userId)
    (hin : Scopes.Inside (base.length - 1) v c) :
    (v.step c).ClientMarked base t := by
  obtain ⟨newer, hscopes, hinert, hbot⟩ := h
  obtain ⟨hm, c₀, hc, haddr, huser⟩ := hstay
  cases c with
  | opens =>
    obtain ⟨hclient, hsnapshot⟩ := capture_client hm hc
    refine ⟨(capture v.manager v.engine).2 :: newer, congrArg _ hscopes, fun snapshots hs => ?_,
      fun c hc' => ?_⟩
    · rcases List.mem_cons.mp hs with rfl | hs
      · have hinert₀ := inert_ofClient (hbot c₀ hc)
        rcases hsnapshot with h | ⟨k, -, h, -⟩
        · exact h ▸ hinert₀
        · exact h ▸ ⟨hinert₀.flags, hinert₀.fakePlayer⟩
      · exact hinert snapshots hs
    · obtain rfl := Option.some.inj (hclient.symm.trans hc')
      exact Client.looksBot_setFakePlayer c₀
  | closes =>
    obtain ⟨snapshots, newer, rfl, hstep⟩ := hin.closes hscopes
    rw [hstep]
    refine ⟨newer, rfl, fun sn hs => hinert sn (List.mem_cons_of_mem _ hs), fun c hc' => ?_⟩
    have hsame := restore_client v.manager snapshots v.engine t
    rw [hc, Option.map_some, (hinert snapshots List.mem_cons_self).mergeClient, ite_self] at hsame
    obtain rfl := Option.some.inj (hsame.symm.trans hc')
    exact hbot c₀ hc
  | evolve m e =>
    obtain ⟨-, c', hc', haddr', huser'⟩ := hstay'
    refine ⟨newer, hscopes, hinert, fun c hce => ?_⟩
    obtain rfl := Option.some.inj (hc'.symm.trans hce)
    exact hin.looksBot hc hc' (haddr'.trans haddr.symm) (huser'.trans huser.symm) (hbot c₀ hc)

/-- What the slot looks like inside a scope it stays in. -/
theorem client_inside {inner : List ScopeCall}
    (hstay : s.Throughout inner (Scopes.Stays t addr userId))
    (hin : Runs.Admits Scopes.step (Scopes.Inside s.scopes.length) (s.step .opens) inner) :
    (Runs.exec Scopes.step (s.step .opens) inner).ClientMarked
      ((capture s.manager s.engine).2 :: s.scopes) t := by
  obtain ⟨⟨hm, c₀, hc, -⟩, hinside⟩ := hstay
  refine Runs.exec_invariant_along (I := Scopes.ClientMarked _ t)
    (P := Scopes.Stays t addr userId) ?_ (fun v c h hv hv' hin => h.step hv hv' hin) hin hinside
  refine ⟨[], rfl, fun _ h => (List.not_mem_nil h).elim, fun c hc' => ?_⟩
  obtain rfl := Option.some.inj ((capture_client hm hc).1.symm.trans hc')
  exact Client.looksBot_setFakePlayer c₀

/-- `FL_FAKECLIENT` set twice is `FL_FAKECLIENT` set. -/
theorem Entity.withFakeClient_of_fakeClient {k : Entity} (h : k.fakeClient = true) :
    k.withFakeClient true = k := by
  have hmask : kEntityFlagFakeClient = BitVec.twoPow 32 8 := by decide
  have hflags : k.flags ||| kEntityFlagFakeClient = k.flags := by
    refine BitVec.eq_of_getLsbD_eq fun i _ => ?_
    rw [hmask, BitVec.getLsbD_or, BitVec.getLsbD_twoPow]
    by_cases hi : 8 = i
    · subst hi
      rw [show k.flags.getLsbD 8 = true from h]
      rfl
    · simp [hi]
  unfold Entity.withFakeClient
  rw [if_pos rfl, hflags]

theorem BotIdentitySnapshot.mergeController_of_mask {snapshot : BotIdentitySnapshot}
    (h : snapshot.controllerFlagsMask = 0) (k : Entity) : snapshot.mergeController k = k := by
  unfold BotIdentitySnapshot.mergeController
  rw [h, Mask.merge_zero]

/-- The same of the slot's controller. -/
def Scopes.ControllerMarked (base : List ScopedBotIdentityRestore) (t : Slot) (v : Scopes) : Prop :=
  ∃ newer, v.scopes = newer ++ base ∧
    (∀ snapshots ∈ newer, (snapshots t).controllerFlagsMask = 0) ∧
    ∀ k, v.engine.controllerAt t = some k → k.fakeClient = true

theorem Scopes.ControllerMarked.step {caddr : Nat} (h : v.ControllerMarked base t) {c : ScopeCall}
    (hv : v.HasController t addr userId caddr handle ∧ v.engine.SeparateControllers)
    (hv' : (v.step c).HasController t addr userId caddr handle)
    (hin : Scopes.Inside (base.length - 1) v c) : (v.step c).ControllerMarked base t := by
  obtain ⟨newer, hscopes, hmask, hfake⟩ := h
  obtain ⟨⟨⟨hm, c₀, hc, -⟩, k₀, hk, haddr, hhandle, hlive⟩, hsep⟩ := hv
  cases c with
  | opens =>
    obtain ⟨-, hcontroller, hsnapshot⟩ := capture_of_managed hsep hm hc hk hlive
    refine ⟨(capture v.manager v.engine).2 :: newer, congrArg _ hscopes, fun snapshots hs => ?_,
      fun k hk' => ?_⟩
    · rcases List.mem_cons.mp hs with rfl | hs
      · rw [hsnapshot]
        change k₀.flags ^^^ (k₀.withFakeClient true).flags = 0
        rw [Entity.withFakeClient_of_fakeClient (hfake k₀ hk)]
        exact BitVec.xor_self
      · exact hmask snapshots hs
    · obtain rfl := Option.some.inj (hcontroller.symm.trans hk')
      exact Entity.fakeClient_withFakeClient true k₀
  | closes =>
    obtain ⟨snapshots, newer, rfl, hstep⟩ := hin.closes hscopes
    rw [hstep]
    refine ⟨newer, rfl, fun sn hs => hmask sn (List.mem_cons_of_mem _ hs), fun k hk' => ?_⟩
    have hsame := (restore_of_managed snapshots hsep hm hc hk).2
    rw [BotIdentitySnapshot.mergeController_of_mask (hmask snapshots List.mem_cons_self),
      ite_self] at hsame
    obtain rfl := Option.some.inj (hsame.symm.trans hk')
    exact hfake k₀ hk
  | evolve m e =>
    obtain ⟨-, k', hk', haddr', hhandle', -⟩ := hv'
    refine ⟨newer, hscopes, hmask, fun k hke => ?_⟩
    obtain rfl := Option.some.inj (hk'.symm.trans hke)
    have hkeep := hin.controller t k₀ k' hk hk' (haddr'.trans haddr.symm)
      (hhandle'.trans hhandle.symm)
    exact hkeep.trans (hfake k₀ hk)

/-- What its controller looks like inside a scope both stay in. -/
theorem controller_inside {caddr : Nat} {inner : List ScopeCall}
    (hstay : s.Throughout inner fun v =>
      v.HasController t addr userId caddr handle ∧ v.engine.SeparateControllers)
    (hin : Runs.Admits Scopes.step (Scopes.Inside s.scopes.length) (s.step .opens) inner) :
    (Runs.exec Scopes.step (s.step .opens) inner).ControllerMarked
      ((capture s.manager s.engine).2 :: s.scopes) t := by
  obtain ⟨⟨⟨⟨hm, c₀, hc, -⟩, k₀, hk, -, -, hlive⟩, hsep⟩, hinside⟩ := hstay
  refine Runs.exec_invariant_along (I := Scopes.ControllerMarked _ t)
    (P := fun v => v.HasController t addr userId caddr handle ∧ v.engine.SeparateControllers) ?_
    (fun v c h hv hv' hin => h.step hv hv'.1 hin) hin hinside
  refine ⟨[], rfl, fun _ h => (List.not_mem_nil h).elim, fun k hk' => ?_⟩
  obtain rfl := Option.some.inj ((capture_of_managed hsep hm hc hk hlive).2.1.symm.trans hk')
  exact Entity.fakeClient_withFakeClient true k₀

/-! ## Opening -/

/-- What opening a scope does: the managed slots' clients and their live controllers look like
bots', nothing but their marks has changed, and other slots and entities are as they were. -/
structure Scopes.Opens (s opened : Scopes) : Prop where
  manager : opened.manager = s.manager
  marks : s.engine.SameButMarks opened.engine
  client : ∀ t : Slot, s.manager.isManaged t = true →
    ∀ c, opened.engine.resolveClientBySlot t = some c → c.LooksBot
  controller : ∀ t : Slot, s.manager.isManaged t = true →
    ∀ k, opened.engine.controllerAt t = some k → k.beingDeleted = false → k.fakeClient = true
  otherClients : ∀ i : Nat, (∀ t : Slot, t.val = i → s.manager.isManaged t = false) →
    opened.engine.resolveClientBySlot i = s.engine.resolveClientBySlot i
  otherEntities : ∀ i, (∀ t, ¬ MarksEntity s.manager s.engine t i) →
    opened.engine.entities i = s.engine.entities i

theorem opens_step (s : Scopes) (hsep : s.engine.SeparateControllers) :
    s.Opens (s.step .opens) := by
  refine ⟨rfl, (sameButMarks_capture _ _).1, fun t hm c' hc' => ?_, fun t hm k' hk' hlive => ?_,
    fun _ => clients_capture, fun _ => entities_capture⟩
  · obtain ⟨c, hc, -⟩ := (agree_capture s.manager s.engine).exists_client hc'
    obtain rfl := Option.some.inj ((capture_client hm hc).1.symm.trans hc')
    exact Client.looksBot_setFakePlayer c
  · have hagree := (agree_capture s.manager s.engine).entityIndex
    obtain ⟨k, hk, hid⟩ := hagree.exists_controller hk'
    have hdeleted : k'.beingDeleted = k.beingDeleted := (congrArg Entity.beingDeleted hid : _)
    cases hc : s.engine.resolveClientBySlot t with
    | none =>
      unfold controllerAt at hk
      rw [hc] at hk
      cases hk
    | some c =>
      have hview := capture_of_managed hsep hm hc hk (hdeleted.symm.trans hlive)
      obtain rfl := Option.some.inj (hview.2.1.symm.trans hk')
      exact Entity.fakeClient_withFakeClient true k

/-! ## Closing -/

/-- A client after a close: the marks it had at the opening, and its latest other bits. -/
structure MergedClient (before inside after : Client) : Prop where
  fakePlayer : after.fakePlayer = before.fakePlayer
  marks : ∀ i, i = 0 ∨ i = 3 →
    after.connectionFlags.getLsbD i = before.connectionFlags.getLsbD i
  others : ∀ i, i < 8 → i ≠ 0 → i ≠ 3 →
    after.connectionFlags.getLsbD i = inside.connectionFlags.getLsbD i
  identity : after.identity = inside.identity

/-- A controller after a close. -/
structure MergedController (before inside after : Entity) : Prop where
  fakeClient : after.fakeClient = before.fakeClient
  others : ∀ i, i < 32 → i ≠ 8 → after.flags.getLsbD i = inside.flags.getLsbD i
  identity : after.identity = inside.identity

theorem merged_ofClient (before : Client) {inside : Client} (hbot : inside.LooksBot) :
    MergedClient before inside ((BotIdentitySnapshot.ofClient before).mergeClient inside) := by
  obtain ⟨hbyte, h3, h0⟩ := hbot
  refine ⟨?_, fun i hi => Mask.getLsbD_merge_of_kept (by omega) ?_,
    fun i hi hne0 hne3 => Mask.getLsbD_merge_of_same hi ?_, rfl⟩
  · unfold BotIdentitySnapshot.mergeClient
    dsimp only
    split
    · rfl
    · rename_i h
      exact hbyte.trans (not_not.mp h).symm
  · rw [getLsbD_setFakePlayer before (by omega)]
    rcases hi with rfl | rfl
    · rw [h0]
      rfl
    · rw [h3]
      rfl
  · rw [getLsbD_setFakePlayer before hi, if_neg hne3, if_neg hne0]

theorem merged_withController {before inside : Entity} (c : Client)
    (hfake : inside.fakeClient = true) : MergedController before inside
      (((BotIdentitySnapshot.ofClient c).withController before).mergeController inside) := by
  refine ⟨Mask.getLsbD_merge_of_kept (by omega) ?_,
    fun i hi hne => Mask.getLsbD_merge_of_same hi ?_, rfl⟩
  · exact hfake.trans (Entity.fakeClient_withFakeClient true before).symm
  · have hmask : kEntityFlagFakeClient = BitVec.twoPow 32 8 := by decide
    unfold Entity.withFakeClient
    rw [if_pos rfl, hmask, BitVec.getLsbD_or, BitVec.getLsbD_twoPow]
    simp [Ne.symm hne]

/-- The slot's client is the one it had at the opening. -/
def Scopes.SameClient (s inside : Scopes) (t : Slot) (c : Client) : Prop :=
  s.manager.isManaged t = true ∧ inside.manager.isManaged t = true ∧
    inside.engine.resolveClientBySlot t = some c ∧
    ∃ c₀, s.engine.resolveClientBySlot t = some c₀ ∧ c.addr = c₀.addr ∧ c.userId = c₀.userId

/-- So is its controller, the entity with this index, which is alive. -/
def Scopes.SameController (s inside : Scopes) (t : Slot) (i : Nat) : Prop :=
  ∃ c k k₀, s.SameClient inside t c ∧ c.entityIndex.toNat = i ∧
    inside.engine.resolveController c = some k ∧ s.engine.controllerAt t = some k₀ ∧
    k₀.beingDeleted = false ∧ k.beingDeleted = false ∧ k.addr = k₀.addr ∧ k.handle = k₀.handle

/-- What closing the scope `s` opens does to the world `inside` it. But for the marks the
engine is as it was last given. -/
structure Scopes.Merges (s inside closed : Scopes) (inner : List ScopeCall) : Prop where
  scopes : closed.scopes = s.scopes
  manager : closed.manager = inside.manager
  latest : (inner.foldl ScopeCall.given s.engine).SameButMarks closed.engine
  agree : SameButFlags inside.engine closed.engine
  client : ∀ t addr userId, s.Throughout inner (Stays t addr userId) →
    ∃ before c after, s.engine.resolveClientBySlot t = some before ∧
      inside.engine.resolveClientBySlot t = some c ∧
      closed.engine.resolveClientBySlot t = some after ∧ MergedClient before c after
  controller : ∀ t addr userId caddr handle,
    s.Throughout inner (HasController t addr userId caddr handle) →
      ∃ before k after, s.engine.controllerAt t = some before ∧
        inside.engine.controllerAt t = some k ∧ closed.engine.controllerAt t = some after ∧
        MergedController before k after
  otherClients : ∀ i : Nat, (∀ t : Slot, t.val = i → ∀ c, ¬ s.SameClient inside t c) →
    closed.engine.resolveClientBySlot i = inside.engine.resolveClientBySlot i
  otherEntities : ∀ i, (∀ t, ¬ s.SameController inside t i) →
    closed.engine.entities i = inside.engine.entities i

/-- The scopes a scope is opened above stay below it. -/
theorem scopes_inside {inner : List ScopeCall}
    (hin : Runs.Admits Scopes.step (Scopes.Inside s.scopes.length) (s.step .opens) inner) :
    ∃ newer, (Runs.exec Scopes.step (s.step .opens) inner).scopes =
      newer ++ (capture s.manager s.engine).2 :: s.scopes := by
  refine Runs.exec_invariant (I := fun v : Scopes => ∃ newer, v.scopes =
    newer ++ (capture s.manager s.engine).2 :: s.scopes) ⟨[], rfl⟩ (fun v c h hin => ?_) hin
  obtain ⟨newer, hscopes⟩ := h
  cases c with
  | opens => exact ⟨(capture v.manager v.engine).2 :: newer, congrArg _ hscopes⟩
  | closes =>
    have hin' : Scopes.Inside (((capture s.manager s.engine).2 :: s.scopes).length - 1) v .closes :=
      hin
    obtain ⟨_, rest, -, hstep⟩ := hin'.closes hscopes
    exact ⟨rest, by rw [hstep]⟩
  | evolve m e => exact ⟨newer, hscopes⟩

/-- The client a snapshot binds is the one it notes. -/
theorem BotIdentitySnapshot.Notes.of_bound {snapshot : BotIdentitySnapshot} {c₀ c : Client}
    (h : snapshot.Notes e t c₀) (hb : snapshot.Bound c) :
    c.addr = c₀.addr ∧ c.userId = c₀.userId := by
  obtain ⟨haddr, huser⟩ := hb
  rcases h with rfl | ⟨k, -, rfl, -⟩
  · exact ⟨(Option.some.inj haddr).symm, huser⟩
  · exact ⟨(Option.some.inj haddr).symm, huser⟩

/-- A snapshot binds a client only where the slot was captured with this client. -/
theorem Scopes.sameClient_of_bound {inside : Scopes} {c : Client}
    (hm : inside.manager.isManaged t = true) (hc : inside.engine.resolveClientBySlot t = some c)
    (hb : ((capture s.manager s.engine).2 t).Bound c) : s.SameClient inside t c := by
  have hnone : ∀ c : Client, ¬ BotIdentitySnapshot.Bound {} c := fun _ h => nomatch h.1
  cases hm₀ : s.manager.isManaged t with
  | false =>
    rw [snapshot_capture_of_not (.inl hm₀)] at hb
    exact absurd hb (hnone c)
  | true =>
    cases hc₀ : s.engine.resolveClientBySlot t with
    | none =>
      rw [snapshot_capture_of_not (.inr hc₀)] at hb
      exact absurd hb (hnone c)
    | some c₀ =>
      exact ⟨hm₀, hm, hc, c₀, hc₀, (capture_client hm₀ hc₀).2.of_bound hb⟩

/-- And a controller only where it was captured with this controller. -/
theorem Scopes.sameController_of_writes {inside : Scopes} {i : Nat}
    (h : WritesEntity inside.manager (capture s.manager s.engine).2 inside.engine t i) :
    s.SameController inside t i := by
  obtain ⟨hm, c, k, hc, hb, hi, hk, haddr, ⟨-, hlive⟩, hhandle⟩ := h
  have hsame := Scopes.sameClient_of_bound hm hc hb
  obtain ⟨hm₀, -, -, c₀, hc₀, -⟩ := id hsame
  rcases (capture_client hm₀ hc₀).2 with hnote | ⟨k', k₀, hnote, hk₀, hid, hlive₀⟩
  · rw [hnote] at haddr
    cases haddr
  · rw [hnote] at haddr hhandle
    have haddr' : k'.addr = k₀.addr := (congrArg Entity.addr hid : _)
    have hhandle' : k'.handle = k₀.handle := (congrArg Entity.handle hid : _)
    have hdeleted : k'.beingDeleted = k₀.beingDeleted :=
      (congrArg Entity.beingDeleted hid : _)
    exact ⟨c, k, k₀, hsame, hi, hk, hk₀, hdeleted.symm.trans hlive₀, hlive,
      (Option.some.inj haddr).symm.trans haddr', hhandle.trans hhandle'⟩

/-- **Nesting.** Opening a scope changes marks of managed slots only. However scopes open and
close inside it and whatever else the engine and the slots do meanwhile, closing it gives every
client that stayed its marks from the opening and `FL_FAKECLIENT` to every controller that
stayed, keeps all other bits as the engine last left them, and writes to no other client or
entity. The engine never gives two clients one controller. -/
theorem scopes_merge (s : Scopes) (inner : List ScopeCall)
    (hsep : s.engine.SeparateControllers)
    (hengine : ∀ m e, ScopeCall.evolve m e ∈ inner → e.SeparateControllers)
    (hin : Runs.Admits Scopes.step (Scopes.Inside s.scopes.length) (s.step .opens) inner)
    (hlast : (Runs.exec Scopes.step (s.step .opens) inner).scopes.length =
      s.scopes.length + 1) :
    let opened := s.step .opens
    let inside := Runs.exec Scopes.step opened inner
    s.Opens opened ∧ s.Merges inside (inside.step .closes) inner := by
  intro opened inside
  have hopens := opens_step s hsep
  refine ⟨hopens, ?_⟩
  have hseparate : ∀ pre, pre <+: inner →
      (Runs.exec Scopes.step opened pre).engine.SeparateControllers := fun pre hpre =>
    separate_run ((agree_capture s.manager s.engine).entityIndex.separateControllers hsep)
      fun m e he => hengine m e (hpre.subset he)
  -- inner scopes opened and closed in pairs: the outer snapshot is on top again
  have hscopes : inside.scopes = (capture s.manager s.engine).2 :: s.scopes := by
    obtain ⟨newer, h⟩ := scopes_inside hin
    have hlen := congrArg List.length h
    rw [List.length_append, List.length_cons] at hlen
    have hnil : newer = [] := List.eq_nil_of_length_eq_zero (by omega)
    rw [hnil] at h
    exact h
  have hclose : inside.step .closes = { inside with
      engine := restore inside.manager (capture s.manager s.engine).2 inside.engine
      scopes := s.scopes } := by
    unfold Scopes.step
    rw [hscopes]
  have hfirst : opened.scopes = [] ++ (capture s.manager s.engine).2 :: s.scopes := rfl
  have hlatest : (inner.foldl ScopeCall.given s.engine).SameButMarks inside.engine :=
    inside_latest hfirst (fun _ h => (List.not_mem_nil h).elim) hopens.marks hin
  rw [hclose]
  refine ⟨rfl, rfl, hlatest.trans (sameButMarks_restore _ (sameButMarks_capture _ _).2 _),
    agree_restore .., fun t addr userId hstay => ?_,
    fun t addr userId caddr handle hstay => ?_,
    fun i hother => clients_restore fun t ht c hc ⟨hm, hb⟩ =>
      hother t ht c (Scopes.sameClient_of_bound hm hc hb),
    fun i hother => entities_restore fun t h => hother t (Scopes.sameController_of_writes h)⟩
  · -- a client that stayed is the one the snapshot is bound to
    obtain ⟨hm₀, c₀, hc₀, haddr₀, huser₀⟩ := hstay.1
    obtain ⟨hm, c, hc, haddr, huser⟩ := hstay.2 inner List.prefix_rfl
    obtain ⟨-, -, -, hbot⟩ := client_inside hstay hin
    have hnotes := (capture_client hm₀ hc₀).2
    have hbound : ((capture s.manager s.engine).2 t).Bound c := by
      rcases hnotes with h | ⟨k, -, h, -⟩
      · exact h ▸ ⟨congrArg some (haddr₀.trans haddr.symm), huser.trans huser₀.symm⟩
      · exact h ▸ ⟨congrArg some (haddr₀.trans haddr.symm), huser.trans huser₀.symm⟩
    refine ⟨c₀, c, ((capture s.manager s.engine).2 t).mergeClient c, hc₀, hc, ?_, ?_⟩
    · rw [restore_client, hc, Option.map_some, if_pos ⟨hm, hbound⟩]
    · have hmerged := merged_ofClient c₀ (hbot c hc)
      rcases hnotes with h | ⟨k, -, h, -⟩
      · exact h ▸ hmerged
      · exact h ▸ hmerged
  · -- a controller that stayed: no other slot's snapshot writes it
    have hstays : s.Throughout inner fun v =>
        v.HasController t addr userId caddr handle ∧ v.engine.SeparateControllers :=
      ⟨⟨hstay.1, hsep⟩, fun pre hpre => ⟨hstay.2 pre hpre, hseparate pre hpre⟩⟩
    obtain ⟨⟨hm₀, c₀, hc₀, haddr₀, huser₀⟩, k₀, hk₀, hcaddr₀, hhandle₀, hlive₀⟩ := hstay.1
    obtain ⟨⟨hm, c, hc, haddr, huser⟩, k, hk, hcaddr, hhandle, hlive⟩ :=
      hstay.2 inner List.prefix_rfl
    obtain ⟨-, -, -, hfake⟩ := controller_inside hstays hin
    have hsnapshot := (capture_of_managed hsep hm₀ hc₀ hk₀ hlive₀).2.2
    have hbound : ((capture s.manager s.engine).2 t).Bound c :=
      hsnapshot ▸ ⟨congrArg some (haddr₀.trans haddr.symm), huser.trans huser₀.symm⟩
    have hcontroller : ((capture s.manager s.engine).2 t).BoundController k := by
      have hcls : k.className = "cs_player_controller" := by
        unfold controllerAt at hk
        rw [hc, Option.bind_some] at hk
        exact ((inside.engine.resolveController_eq_some).mp hk).2
      exact hsnapshot ▸ ⟨congrArg some (hcaddr₀.trans hcaddr.symm), ⟨hcls, hlive⟩,
        hhandle.trans hhandle₀.symm⟩
    refine ⟨k₀, k, ((capture s.manager s.engine).2 t).mergeController k, hk₀, hk, ?_, ?_⟩
    · rw [(restore_of_managed _ (hseparate inner List.prefix_rfl) hm hc hk).2,
        if_pos ⟨hbound, hcontroller⟩]
    · rw [hsnapshot]
      exact merged_withController c₀ (hfake k hk)

/-- Two adopted bots in no scope, whose controllers' `FL_FAKECLIENT` is clear. -/
def adoptedPair : Scopes where
  manager := (((World.load smallServer).step (botConnects 0)).step (botConnects 1)).manager
  engine := { twoBots with
    gameServer := some { addr := 1, clients := [
      some { botClient 1 with entityIndex := 1 }, some { botClient 2 with entityIndex := 2 }] }
    entities := fun n => (twoBots.entities n).map (Entity.withFakeClient false) }

/-- A scope opens inside, the engine sets another connection flag of the first bot, and the
scope closes. -/
def innerScope : List ScopeCall :=
  let inside := Runs.exec Scopes.step (adoptedPair.step .opens) [.opens]
  [.opens, .evolve inside.manager (inside.engine.modifyClient 0 fun c =>
    { c with connectionFlags := c.connectionFlags ||| 0x40#8 }), .closes]

theorem scopes_merge_nested :
    let inside := Runs.exec Scopes.step (adoptedPair.step .opens) innerScope
    adoptedPair.Opens (adoptedPair.step .opens) ∧
      adoptedPair.Merges inside (inside.step .closes) innerScope := by
  have hdepth : (Runs.exec Scopes.step (adoptedPair.step .opens)
      (innerScope.take 2)).scopes.length = 2 := by decide +kernel
  refine scopes_merge adoptedPair innerScope (by decide +kernel) (fun m e he => ?_)
    ⟨trivial, keepsMarks_modifyClient _ 0 (fun _ => rfl) fun c => ⟨rfl, ?_, ?_⟩, ?_, trivial⟩
    (by decide +kernel)
  · obtain ⟨rfl, rfl⟩ : m = (Runs.exec Scopes.step (adoptedPair.step .opens) [.opens]).manager ∧
        e = (Runs.exec Scopes.step (adoptedPair.step .opens) [.opens]).engine.modifyClient 0
          (fun c => { c with connectionFlags := c.connectionFlags ||| 0x40#8 }) := by
      simpa [innerScope] using he
    decide +kernel
  · simp
  · simp
  · change 0 + 1 < (Runs.exec Scopes.step (adoptedPair.step .opens)
      (innerScope.take 2)).scopes.length
    rw [hdepth]
    decide

end BotHider.Model
