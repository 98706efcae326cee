import BotHider.Avatar.CommandSteps
import BotHider.Identity.Lifetimes
import BotHider.Image.Png
import BotHider.Pool.Picks

/-!
# BotHider — the last accepted avatar command wins

* `commandsOk_run` — the invariant holds along every run the bridge stays connected in.
* `last_command_wins` — what the requests of managed slots are, and what pending reads can
  still do.
-/

namespace BotHider.Model

open World

variable {p : Watch} {s : Slot}

/-! ## Runs -/

/-- The bridge connects once and stays connected, and nobody but it sets avatars. -/
def StaysConnected (p : Watch) : Event → Prop
  | .bhSetAvatar .. | .bhDetach | .unloadImpl => False
  | .loadImpl _ => p.world.bridge.client = none
  | _ => True

/-- The world a run is in, with what happened to its reads. -/
def Watch.run (env : LoadEnv) (es : List Event) : Watch :=
  Runs.exec Watch.step { world := World.load env } es

theorem Watch.world_exec (p : Watch) (es : List Event) :
    (Runs.exec Watch.step p es).world = Runs.exec World.step p.world es :=
  Runs.exec_view Watch.world Watch.world_step p es

/-! ## Loading -/

/-- No bridge, no command and no request yet. -/
structure World.Bare (w : World) : Prop where
  reads : ∀ s, w.bridge.avatarReads s = {}
  client : w.bridge.client = none
  started : w.journal.reads = 0
  results : ∀ id, w.journal.results id = none
  accepted : ∀ s, w.journal.accepted s = []
  request : ∀ s, w.manager.isManaged s = true → (w.manager.getAvatarRequest s).data = []

theorem World.Bare.proceeds {w w' : World} (h : w.Bare) (hp : w.Proceeds w') : w'.Bare where
  reads s := (congrFun hp.reads s).trans (h.reads s)
  client := hp.client.trans h.client
  started := hp.started.trans h.started
  results id := (congrFun hp.results id).trans (h.results id)
  accepted s := by
    rcases hp.lives s with ⟨hlog, -⟩ | ⟨hlog, -⟩
    · exact hlog.trans (h.accepted s)
    · exact hlog
  request s hm := by
    rcases hp.lives s with ⟨-, ⟨hm', -, hr⟩ | hm'⟩ | ⟨-, -, hdata, -⟩
    · have hdata : (w'.manager.getAvatarRequest s).data = (w.manager.getAvatarRequest s).data :=
        (congrArg AvatarRequest.data hr : _)
      exact hdata.trans (h.request s (hm'.symm.trans hm))
    · exact absurd (hm'.symm.trans hm) Bool.false_ne_true
    · exact hdata

theorem bare_loading (env : LoadEnv) : (World.loading env).Bare := by
  have hnew : (World.loading env).bridge = {} ∧ (World.loading env).journal = {} := by
    obtain ⟨plugin, h⟩ := loading_eq env
    rw [h]
    exact ⟨rfl, rfl⟩
  obtain ⟨hbridge, hjournal⟩ := hnew
  refine ⟨fun s => by rw [hbridge], by rw [hbridge], by rw [hjournal], fun id => by rw [hjournal],
    fun s => by rw [hjournal], fun s hm => ?_⟩
  rw [isManaged_loading] at hm
  cases hm

theorem proceeds_applyClientName (w : World) (call : SetNameCall) (slot : Slot) (name : Bytes) :
    w.Proceeds (w.applyClientName call slot name).1 :=
  .of_desk (desk_applyClientName ..)
    ((leases_applyClientName w call slot name).continues (desk_applyClientName ..))

theorem bare_load (env : LoadEnv) : (World.load env).Bare := by
  refine load_invariant (I := World.Bare) env (bare_loading env) (fun w s hw _ => ?_) fun w hw =>
    ⟨hw.reads, hw.client, hw.started, hw.results, hw.accepted, hw.request⟩
  unfold World.adoptExisting adoptExistingBot
  split
  · exact hw
  · rename_i client _
    split
    · exact hw
    · split
      · exact hw
      · have hadopt := hw.proceeds (proceeds_adoptClient w s client.name (env.times s))
        dsimp only
        split
        · exact hadopt.proceeds (proceeds_applyClientName ..)
        · exact hadopt

/-- The invariant holds before the bridge connects. -/
theorem commandsOk_load (env : LoadEnv) : CommandsOk { world := World.load env } := by
  have h := bare_load env
  have hmentions : ∀ s id, ¬ (World.load env).Mentions s id := by
    rintro s id (hid | ⟨task, htask, -⟩)
    · rw [World.log, h.accepted] at hid
      exact List.not_mem_nil hid
    · rw [h.reads] at htask
      cases htask
  refine ⟨sane_load env, fun hc => absurd h.client hc, fun _ => h.started,
    fun id _ => ⟨h.results id, rfl⟩, fun id bytes hid => ?_, fun s _ id hid => ?_,
    fun id hid => ?_, fun s => ⟨fun id hid => ?_, fun task htask => ?_, fun task htask => ?_,
      fun hm _ => ?_, fun _ task htask => ?_, fun _ task htask => ?_⟩⟩
  · rw [h.results] at hid
    cases hid
  · exact absurd hid (hmentions s id)
  · rw [h.started] at hid
    exact absurd hid (Nat.not_lt_zero id)
  · exact absurd hid (hmentions s id)
  · rw [h.reads] at htask
    cases htask
  · rw [h.reads] at htask
    cases htask
  · rw [World.log, h.accepted]
    exact h.request s hm
  · rw [h.reads] at htask
    cases htask
  · rw [h.reads] at htask
    cases htask

/-! ## Steps -/

/-- A slot's read and its incarnation, once it can be commanded. -/
theorem trySetBotAvatar_cases (w : World) (slot : Int) (pngPath : AvatarPath) :
    (w.trySetBotAvatar slot pngPath).1 = w ∨
    ∃ s, w.bridge.client ≠ none ∧ w.connected = true ∧ w.manager.isManaged s = true ∧
      ((w.trySetBotAvatar slot pngPath).1 = (w.clearBotAvatar s (w.manager.getIncarnation s)).1 ∨
        (w.bridge.avatarReads s).read = none ∧
          (w.trySetBotAvatar slot pngPath).1 = w.startAvatarRead s (w.manager.getIncarnation s)) := by
  unfold trySetBotAvatar
  split
  · rename_i snapshot index hread hslot
    obtain ⟨hclient, hconnected, index', hslot', rfl⟩ := readSlot_eq_some hread
    obtain rfl := Option.some.inj (hslot.symm.trans hslot')
    split
    · exact Or.inl rfl
    · rename_i hm
      have hm' : w.manager.isManaged index = true := by
        simpa [FakeClientManager.isManaged] using hm
      split
      · exact Or.inr ⟨index, hclient, hconnected, hm', Or.inl rfl⟩
      · split
        · exact Or.inl rfl
        · split
          · exact Or.inl rfl
          · rename_i hnone
            refine Or.inr ⟨index, hclient, hconnected, hm', Or.inr ⟨?_, rfl⟩⟩
            simpa using hnone
  · exact Or.inl rfl

theorem CommandsOk.trySetBotAvatar (h : CommandsOk p) (hledger : p.world.registry.ledger.Sound)
    (slot : Int) (pngPath : AvatarPath) :
    CommandsOk { p with world := (p.world.trySetBotAvatar slot pngPath).1 } := by
  have hsane : (p.world.trySetBotAvatar slot pngPath).1.Sane :=
    h.sane.step (.trySetBotAvatar slot pngPath)
  rcases trySetBotAvatar_cases p.world slot pngPath with
    heq | ⟨s, hclient, hconnected, hm, heq | ⟨hnone, heq⟩⟩
  · rw [heq]
    exact h
  · rw [heq, clearBotAvatar_eq hconnected hm (h.sane.incarnation_ne_zero hm)] at hsane ⊢
    exact h.clear hm hsane
  · rw [heq] at hsane ⊢
    exact h.start hclient hm hnone (hledger s _ (holds_ledger.mpr ⟨hm, rfl⟩)) hsane

/-- **Step lemma.** -/
theorem CommandsOk.step (h : CommandsOk p) (hledger : p.world.registry.ledger.Sound) {e : Event}
    (hok : StaysConnected p e) (hnodup : (p.step e).world.journal.issued.Nodup) :
    CommandsOk (p.step e) := by
  cases hr : e.reads with
  | false =>
    have hstep : p.step e = { p with world := p.world.step e } := by
      cases e with
      | finishAvatarReads => cases hr
      | _ => rfl
    rw [hstep] at hnodup ⊢
    exact h.proceeds (proceeds_step h.sane hr) (h.sane.step e) hnodup
  | true =>
    cases e with
    | loadImpl found => exact h.loadImpl hok found
    | trySetBotAvatar slot pngPath => exact h.trySetBotAvatar hledger slot pngPath
    | completeAvatarRead slot file =>
      have hsane : (p.world.completeAvatarRead slot file).Sane :=
        h.sane.step (.completeAvatarRead slot file)
      change CommandsOk { p with world := p.world.completeAvatarRead slot file }
      rcases completeAvatarRead_cases p.world slot file with heq | ⟨task, hread, heq⟩
      · rw [heq]
        exact h
      · rw [heq] at hsane ⊢
        exact h.complete hread (fun bytes => readAvatar_sized) hsane
    | finishAvatarReads alloc =>
      exact Sweep.foldl_invariant h fun p s _ h => h.finish alloc s
    | bhDetach => exact hok.elim
    | bhSetAvatar => exact hok.elim
    | unloadImpl => exact hok.elim
    | _ => cases hr

/-- **Run lemma.** The invariant holds along every run the bridge stays connected in. -/
theorem commandsOk_run (env : LoadEnv) {es : List Event}
    (hok : Runs.Admits Watch.step StaysConnected { world := World.load env } es)
    (hbound : (World.run env es).journal.issued.length < 2 ^ 64 - 1) :
    CommandsOk (Watch.run env es) := by
  induction es using List.reverseRecOn with
  | nil => exact commandsOk_load env
  | append_singleton es e ih =>
    obtain ⟨hbefore, hlast, -⟩ := Runs.admits_append.mp hok
    have hworld : (Watch.run env es).world = World.run env es := Watch.world_exec _ es
    have hsnoc : Watch.run env (es ++ [e]) = (Watch.run env es).step e := Runs.exec_append ..
    have hsnoc' : World.run env (es ++ [e]) = (World.run env es).step e := Runs.exec_append ..
    have hissued : (World.run env es).journal.issued.length < 2 ^ 64 - 1 := by
      have hpath := Registry.ledger_path (exec_path (sane_run env es) [e])
      rw [hsnoc'] at hbound
      exact (Token.issued_suffix hpath).length_le.trans_lt hbound
    rw [hsnoc]
    refine (ih hbefore hissued).step (hworld ▸ ledger_sound_run env es) hlast ?_
    rw [Watch.world_step, hworld, ← hsnoc']
    exact ((counted_run env _).issued hbound).1

/-! ## The last command wins -/

/-- **What the requests are.** The request of a managed slot without pending read is what its
lifetime's commands come to; a running read is pending for exactly one slot; and a pending
read of an earlier lifetime, or followed by a clear, changes nothing. -/
structure LastWins (p : Watch) : Prop where
  request : ∀ s, p.world.manager.isManaged s = true →
    (p.world.bridge.avatarReads s).read = none →
      (p.world.manager.getAvatarRequest s).data =
        Deferred.effect [] p.outcome (p.world.log s)
  pending : ∀ id, id < p.world.journal.reads → p.world.journal.results id = none →
    ∃! s, ∃ task, (p.world.bridge.avatarReads s).read = some task ∧ task.id = id
  stale : ∀ s task, (p.world.bridge.avatarReads s).read = some task →
    p.world.manager.isManaged s = false ∨ ¬ Deferred.Live (p.world.log s) task.id →
      ∀ alloc, (p.world.finishAvatarRead alloc s).manager = p.world.manager

theorem CommandsOk.lastWins (h : CommandsOk p) : LastWins p := by
  refine ⟨fun s => (h.slots s).idle, fun id hlt hid => ?_, fun s task hread hstale alloc => ?_⟩
  · obtain ⟨s, task, htask, hid'⟩ := h.running id hlt hid
    exact ⟨s, ⟨task, htask, hid'⟩, fun t ht => h.unique t s id (Or.inr ht)
      (Or.inr ⟨task, htask, hid'⟩)⟩
  · cases hres : task.result with
    | none =>
      unfold finishAvatarRead
      simp only [hread, Option.bind_some, hres]
    | some result =>
      have hlt := (h.slots s).started task.id (Or.inr ⟨task, hread, rfl⟩)
      have hclient : p.world.bridge.client ≠ none := by
        intro hn
        have := h.unstarted hn
        omega
      have hresults := (hres ▸ ((h.slots s).task task hread).1 :
        p.world.journal.results task.id = some result)
      rcases finishAvatarRead_cases hclient (h.connected hclient) h.sane hread hres
        (fun bytes hb => h.sized task.id bytes (hb ▸ hresults)) alloc with ⟨hm, hinc, -⟩ | ⟨-, heq⟩
      · -- a read of this lifetime that is the last command counts
        obtain ⟨before, hlog, -⟩ := (h.slots s).last hm task hread hinc
        rcases hstale with hunmanaged | hlive
        · exact absurd (hm.symm.trans hunmanaged) Bool.true_eq_false.mp
        · refine absurd ?_ hlive
          rw [hlog]
          exact Deferred.live_append_some.mpr (Or.inl rfl)
      · rw [heq]
        rfl

/-- **The last command wins.** Along every run the bridge stays connected in, with fewer than
`2^64 - 1` adoptions. -/
theorem last_command_wins (env : LoadEnv) (es : List Event)
    (hok : Runs.Admits Watch.step StaysConnected { world := World.load env } es)
    (hbound : (World.run env es).journal.issued.length < 2 ^ 64 - 1) :
    LastWins (Watch.run env es) :=
  (commandsOk_run env hok hbound).lastWins

/-- A file is set and read. -/
theorem last_command_wins_file : LastWins (Watch.run smallServer [botConnects 0, .loadImpl true,
    .trySetBotAvatar 0 (.file true), .completeAvatarRead 0 (some tinyPng),
    .finishAvatarReads fun _ => true]) :=
  last_command_wins smallServer [botConnects 0, .loadImpl true, .trySetBotAvatar 0 (.file true),
    .completeAvatarRead 0 (some tinyPng), .finishAvatarReads fun _ => true]
    ⟨trivial, (by decide +kernel : (World.run smallServer [botConnects 0]).bridge.client = none),
      trivial, trivial, trivial, trivial⟩
    (by decide +kernel)

/-! ## Incarnations that come back

One bot that leaves and connects again is adopted again, as often as it likes. -/

/-- One bot on the server, and a pool to adopt it from. -/
structure World.Lone (w : World) : Prop where
  sane : w.Sane
  clients : w.engine.clientList.map (List.map (Option.map Client.hltv)) = some [some false]
  others : ∀ t, t ≠ 0 → w.manager.isManaged t = false
  pool : w.registry.steamIds ≠ []

variable {w : World}

theorem World.Lone.list (h : w.Lone) :
    ∃ c, w.engine.clientList = some [some c] ∧ c.hltv = false := by
  obtain ⟨clients, hlist, hclients⟩ := Option.map_eq_some_iff.mp h.clients
  obtain ⟨o, rfl, ho⟩ := List.map_eq_singleton_iff.mp hclients
  obtain ⟨c, rfl, hc⟩ := Option.map_eq_some_iff.mp ho
  exact ⟨c, hlist, hc⟩

theorem World.Lone.client (h : w.Lone) :
    ∃ c, w.engine.resolveClientBySlot 0 = some c ∧ c.hltv = false := by
  obtain ⟨c, hlist, hltv⟩ := h.list
  refine ⟨c, ?_, hltv⟩
  unfold Engine.resolveClientBySlot
  rw [hlist]
  rfl

theorem agree_restoreClient (e : Engine) (slot : Slot) :
    Engine.Agree Client.hltv e (restoreClient e slot) :=
  (Engine.agree_modifyClient (u := Client.setFakePlayer) e slot fun _ => rfl).trans
    ((Engine.agree_setControllerFakeClientFlag _ _ slot true).trans
      (Engine.agree_modifyClient (u := Client.writeSteamId 0) _ slot fun _ => rfl))

/-- The bot leaves. -/
theorem World.Lone.leaves (h : w.Lone) (hm : w.manager.isManaged 0 = true) :
    (w.step (.clientDisconnect 0 false)).Lone ∧
      (w.step (.clientDisconnect 0 false)).manager.isManaged 0 = false := by
  obtain ⟨c, hc, -⟩ := h.client
  have hstep : w.step (.clientDisconnect 0 false) = (w.restoreSlotClient 0).releaseSlot 0 := by
    change w.hookClientDisconnectPre 0 false = _
    unfold hookClientDisconnectPre
    rw [show slotOf 0 = some 0 from rfl]
    simp only [hm, Bool.not_true, Bool.false_eq_true, if_false]
    rw [show w.engine.resolveClientBySlot ((0 : Slot) : Nat) = some c from hc]
  have hregistry : (w.step (.clientDisconnect 0 false)).registry = w.registry.release 0 := by
    rw [hstep]
    exact registry_releaseSlot (w.restoreSlotClient 0) 0
  refine ⟨⟨h.sane.step _, ?_, fun t ht => ?_, ?_⟩, ?_⟩
  · rw [hstep]
    exact (agree_restoreClient w.engine 0).clientList.trans h.clients
  · have hholding := congrArg (fun r : Registry => (r.holding t).managed) hregistry
    rw [Registry.release_holding_of_ne _ ht] at hholding
    exact hholding.trans (h.others t ht)
  · rw [hregistry]
    exact h.pool
  · have hholding := congrArg (fun r : Registry => (r.holding 0).managed) hregistry
    rw [Registry.release_holding_self] at hholding
    exact hholding

/-- An adoption leaves the clients where they are. -/
theorem agree_adoptEntry (w : World) (slot : Slot) (name : Option Bytes) (now : UInt64)
    (pick : Nat) (entry : BotEntry) :
    Engine.Agree Client.hltv w.engine (w.adoptEntry slot name now pick entry).engine := by
  have hwrite := Engine.agree_modifyClient (f := Client.hltv)
    (u := Client.writeSteamId entry.steamId64) w.engine slot fun _ => rfl
  unfold adoptEntry
  dsimp only
  split
  · exact hwrite.trans ((Engine.agree_modifyClient (u := Client.clearFakePlayer) _ slot
      fun _ => rfl).trans (Engine.agree_setControllerFakeClientFlag _ _ slot _))
  · exact hwrite

/-- With nobody managed nothing is occupied, and the pool has an entry to give. -/
theorem World.Lone.pick (h : w.Lone) (hm : w.manager.isManaged 0 = false)
    (name : Option Bytes) : collectOccupiedSteamIds w.manager w.engine 0 = some [] ∧
      (w.botInfo.pickForBot name []).1 ≠ none := by
  have hall : ∀ t, w.manager.isManaged t = false := by
    intro t
    rcases eq_or_ne t 0 with rfl | ht
    · exact hm
    · exact h.others t ht
  constructor
  · obtain ⟨c, hlist, -⟩ := h.list
    -- nobody managed reserves a SteamID, and the only client is the asking slot's
    have hreserved : allSlots.filterMap (reservedSteamId w.manager (0 : Slot)) = [] := by
      refine List.filterMap_eq_nil_iff.mpr fun t _ => ?_
      unfold reservedSteamId
      rw [hall t]
      exact if_neg fun hc => Bool.false_ne_true hc.2
    have hoccupied : (List.range 1).filterMap (occupantSteamId [some c] 0) = [] := rfl
    unfold collectOccupiedSteamIds
    rw [hlist]
    change some ((List.range 1).filterMap (occupantSteamId [some c] 0) ++
      allSlots.filterMap (reservedSteamId w.manager (0 : Slot))) = some []
    rw [hreserved, hoccupied]
    rfl
  · rw [Ne, pickForBot_eq_none_iff]
    intro hnone
    have hne : w.botInfo.entries ≠ [] := fun hn => h.pool (congrArg (List.map _) hn)
    obtain ⟨e, entries, hentries⟩ := List.exists_cons_of_ne_nil hne
    have hsize : w.botInfo.Sized := h.sane.good.pool.trans (List.length_map _)
    -- entry `0` is free: if it were used, by coupling some slot would be managed
    refine hnone 0 ((available_iff hsize).mpr ⟨e, by rw [hentries]; rfl, ?_, List.not_mem_nil⟩)
    have hlt : 0 < w.botInfo.assigned.length := by
      rw [hsize, hentries]
      exact Nat.zero_lt_succ _
    rw [List.getElem?_eq_getElem hlt]
    cases hb : w.botInfo.assigned[0] with
    | false => rfl
    | true =>
      obtain ⟨s, hs⟩ := (h.sane.good.assigned 0).mp
        (show w.botInfo.assigned[0]? = some true by rw [List.getElem?_eq_getElem hlt, hb])
      have hmanaged := (h.sane.good.coupled s).entry.mpr (by rw [hs]; exact Option.some_ne_none 0)
      exact absurd ((hall s).symm.trans hmanaged) Bool.false_ne_true

/-- And is adopted when it comes back. -/
theorem World.Lone.adopted (h : w.Lone) (hm : w.manager.isManaged 0 = false) :
    (w.step (botConnects 0)).Lone ∧ (w.step (botConnects 0)).manager.isManaged 0 = true := by
  obtain ⟨c, hc, hltv⟩ := h.client
  obtain ⟨hoccupied, hpick⟩ := h.pick hm (some (ascii "Bob"))
  obtain ⟨i, hi⟩ := Option.ne_none_iff_exists'.mp hpick
  obtain ⟨-, hentries, -⟩ := pickForBot_some hi
  -- the hook goes all the way to adopting the picked entry
  have hstep : ∃ botInfo : BotInfoStore, botInfo.entries = w.botInfo.entries ∧ ∃ entry,
      w.step (botConnects 0) = World.adoptEntry { w with botInfo := botInfo } 0
        (some (ascii "Bob")) 3 i entry := by
    refine ⟨(w.botInfo.pickForBot (some (ascii "Bob")) []).2, hentries,
      ((w.botInfo.pickForBot (some (ascii "Bob")) []).2.entries[i]?).getD {}, ?_⟩
    change w.hookOnClientConnectedPost 0 (some (ascii "Bob")) none true 3 = _
    unfold hookOnClientConnectedPost
    rw [show slotOf 0 = some 0 from rfl, show (!true || isHltvConnection (some (ascii "Bob")) none) =
      false by decide]
    simp only [hm, Bool.false_eq_true, if_false]
    rw [show w.engine.resolveClientBySlot ((0 : Slot) : Nat) = some c from hc]
    simp only [hltv, Bool.false_eq_true, if_false]
    unfold adoptClient
    rw [hoccupied]
    simp only [hi]
  have hsane := h.sane.step (botConnects 0)
  obtain ⟨botInfo, hkept, entry, heq⟩ := hstep
  have hregistry := registry_adoptEntry { w with botInfo := botInfo } 0 (some (ascii "Bob")) 3 i entry
  have hagree := agree_adoptEntry { w with botInfo := botInfo } 0 (some (ascii "Bob")) 3 i entry
  rw [heq] at hsane ⊢
  generalize World.adoptEntry { w with botInfo := botInfo } 0 (some (ascii "Bob")) 3 i entry = v at *
  refine ⟨⟨hsane, hagree.clientList.trans h.clients, fun t ht => ?_, ?_⟩, ?_⟩
  · have hholding := congrArg (fun r : Registry => (r.holding t).managed) hregistry
    dsimp only at hholding
    rw [Function.update_of_ne ht] at hholding
    exact hholding.trans (h.others t ht)
  · have hpool := congrArg Registry.steamIds hregistry
    rw [hpool]
    change botInfo.entries.map BotEntry.steamId64 ≠ []
    rw [hkept]
    exact h.pool
  · have hholding := congrArg (fun r : Registry => (r.holding 0).managed) hregistry
    dsimp only at hholding
    rw [Function.update_self] at hholding
    exact hholding

/-- The bot leaves and connects again. -/
def rejoin : List Event := [.clientDisconnect 0 false, botConnects 0]

/-- After the bot came back `n` times: its read is as it was, its lifetime is a new one, and
`n` more incarnations are handed out. -/
structure Rejoined (w : World) (n : Nat) (w' : World) : Prop where
  lone : w'.Lone
  managed : w'.manager.isManaged 0 = true
  read : w'.bridge.avatarReads 0 = w.bridge.avatarReads 0
  client : w'.bridge.client = w.bridge.client
  connected : w'.connected = true
  results : w'.journal.results = w.journal.results
  issued : w'.journal.issued.length = w.journal.issued.length + n
  latest : w'.journal.issued.head? = some (w'.manager.getIncarnation 0)
  renewed : 0 < n → w'.journal.accepted 0 = [] ∧ (w'.manager.getAvatarRequest 0).data = []

theorem Rejoined.again {w' : World} {n : Nat} (h : Rejoined w n w') :
    Rejoined w (n + 1) (Runs.exec World.step w' rejoin) := by
  obtain ⟨hlone, hfree⟩ := h.lone.leaves h.managed
  have hleft := proceeds_step (e := .clientDisconnect 0 false) h.lone.sane rfl
  have hissued := congrArg (fun d : Desk => d.journal.issued)
    (desk_step (e := .clientDisconnect 0 false) h.lone.sane.loaded rfl)
  change (w'.step (.clientDisconnect 0 false)).journal.issued = w'.journal.issued at hissued
  change Rejoined w (n + 1) ((w'.step (.clientDisconnect 0 false)).step (botConnects 0))
  generalize w'.step (.clientDisconnect 0 false) = v at hlone hfree hleft hissued ⊢
  obtain ⟨hlone', hmanaged⟩ := hlone.adopted hfree
  have hback := proceeds_step (e := botConnects 0) hlone.sane rfl
  generalize v.step (botConnects 0) = u at hlone' hmanaged hback ⊢
  rcases hback.lives 0 with ⟨-, hgoes⟩ | ⟨haccepted, -, hdata, hnew⟩
  · -- the slot was free, so this is no lifetime that goes on
    rcases hgoes with ⟨hm, -⟩ | hm
    · exact absurd ((hmanaged.symm.trans hm).trans hfree) Bool.true_eq_false.mp
    · exact absurd (hmanaged.symm.trans hm) Bool.true_eq_false.mp
  · refine ⟨hlone', hmanaged, ?_, ?_, hback.connected (hleft.connected h.connected), ?_, ?_, ?_,
      fun _ => ⟨haccepted, hdata⟩⟩
    · rw [hback.reads, hleft.reads, h.read]
    · rw [hback.client, hleft.client, h.client]
    · rw [hback.results, hleft.results, h.results]
    · rw [hnew, List.length_cons, hissued, h.issued]
      rfl
    · rw [hnew]
      rfl

theorem rejoined_replicate (h : Rejoined w 0 w) (n : Nat) :
    Rejoined w n (Runs.exec World.step w (List.replicate n rejoin).flatten) := by
  induction n with
  | zero => exact h
  | succ n ih =>
    rw [List.replicate_succ', List.flatten_append, List.flatten_singleton, Runs.exec_append]
    exact ih.again

/-- The latest of the incarnations handed out, in terms of their number. -/
theorem Registry.Counted.latest {start : UInt64} {r : Registry} (hc : r.Counted start)
    {g : UInt64} (hg : r.issued.head? = some g) :
    g.toNat = (Token.bump (2 ^ 64 - 1))^[r.issued.length] start.toNat := by
  obtain ⟨rest, hrest⟩ : ∃ rest, r.issued = g :: rest := by
    cases hi : r.issued with
    | nil =>
      rw [hi] at hg
      cases hg
    | cons g' rest =>
      rw [hi, List.head?_cons] at hg
      exact ⟨rest, by rw [Option.some.inj hg]⟩
  have hall := hc.1
  rw [hrest, List.length_cons, Token.bumps_succ, List.reverse_cons, List.map_append] at hall
  rw [hrest, List.length_cons]
  exact List.singleton_inj.mp (List.append_inj' hall rfl).2

/-- A server with one bot. -/
def loneServer : LoadEnv :=
  { smallServer with engine := { twoBots with
      gameServer := some { addr := 1, clients := [some (botClient 1)] } } }

/-- The bot is adopted, the bridge connects, and a file is accepted for it. -/
def fileAccepted : List Event := [botConnects 0, .loadImpl true, .trySetBotAvatar 0 (.file true)]

theorem rejoined_fileAccepted :
    Rejoined (World.run loneServer fileAccepted) 0 (World.run loneServer fileAccepted) where
  lone :=
    { sane := sane_run _ _
      clients := by decide +kernel
      others := by decide +kernel
      pool := by decide +kernel }
  managed := by decide +kernel
  read := rfl
  client := rfl
  connected := by decide +kernel
  results := rfl
  issued := rfl
  latest := by decide +kernel
  renewed h := absurd h (Nat.lt_irrefl 0)

/-- When the counter is back where it was, the read of the first lifetime counts again. -/
theorem not_lastWins_of_wrap {n : Nat} {v : World}
    (hgone : Rejoined (World.run loneServer fileAccepted) n v) (hpos : 0 < n)
    (hcount : v.registry.Counted 5)
    (hwrap : (Token.bump (2 ^ 64 - 1))^[n + 1] 5 = (Token.bump (2 ^ 64 - 1))^[1] 5)
    (hworld : p.world = v.completeAvatarRead 0 (some tinyPng)) : ¬ LastWins p := by
  intro hwins
  have hread : (v.bridge.avatarReads 0).read = some { id := 0 } := by
    rw [hgone.read]
    rfl
  -- both incarnations are counted from `5`, and `hwrap` says the counts meet
  have hinc : (v.bridge.avatarReads 0).incarnation = v.manager.getIncarnation 0 := by
    have hfirst : (v.bridge.avatarReads 0).incarnation.toNat =
        (Token.bump (2 ^ 64 - 1))^[1] 5 := by
      rw [hgone.read]
      decide +kernel
    have hlatest := hcount.latest hgone.latest
    rw [show v.registry.issued.length = n + 1 from hgone.issued.trans (Nat.add_comm ..)] at hlatest
    exact UInt64.toNat_inj.mp (hfirst.trans (hwrap.symm.trans hlatest.symm))
  have hsane : p.world.Sane :=
    hworld ▸ hgone.lone.sane.step (.completeAvatarRead 0 (some tinyPng))
  have hpng : World.readAvatar (some tinyPng) = some tinyPng := by decide +kernel
  rw [completeAvatarRead_of_running hread rfl, hpng] at hworld
  obtain ⟨haccepted, hdata⟩ := hgone.renewed hpos
  have hself : p.world.bridge.avatarReads 0 =
      { v.bridge.avatarReads 0 with read := some { id := 0, result := some (some tinyPng) } } := by
    rw [hworld]
    simp [World.completed, setAvatarRead, withBridge]
  have hself' : (p.world.bridge.avatarReads 0).read =
      some { id := 0, result := some (some tinyPng) } := by rw [hself]
  have hlog : p.world.log 0 = [] := by
    rw [hworld]
    exact congrArg (List.map AvatarCommand.entry) haccepted
  -- the log of the new lifetime is empty, so the read should be dropped
  have hkept := hwins.stale 0 _ hself' (Or.inr fun hlive => by
    rw [hlog] at hlive
    exact List.not_mem_nil hlive.mem) true
  have hclient : p.world.bridge.client ≠ none := by
    rw [show p.world.bridge.client = v.bridge.client by rw [hworld]; rfl, hgone.client]
    decide +kernel
  have hconnected : p.world.connected = true := by
    rw [hworld]
    exact hgone.connected
  have hmanager : p.world.manager = v.manager := by
    rw [hworld]
    rfl
  rcases finishAvatarRead_cases hclient hconnected hsane hself' rfl
    (fun bytes hb => Option.some.inj hb ▸ (by decide)) true with ⟨-, -, heq⟩ | ⟨hstale, -⟩
  · -- the bytes are taken, though no command of this lifetime brought them
    have htaken : (some tinyPng).filter (fun bytes => hasPngStructure (some bytes) && true) =
        some tinyPng := by decide +kernel
    rw [htaken] at heq
    rw [heq] at hkept
    have hnew := (holding_setAvatarRequest (p.world.setAvatarRead 0 {}) 0 tinyPng).2.2
    rw [show (p.world.setAvatarRead 0 {}).manager = p.world.manager from rfl] at hnew
    rw [hkept, hmanager, hdata] at hnew
    exact absurd hnew (by decide)
  · -- the read is not stale for the code
    rw [hself, hmanager] at hstale
    exact hstale hgone.managed hinc

/-- After `2^64 - 1` more adoptions the bot has the incarnation it had when the file was
accepted: its read, of a lifetime long gone, now counts. -/
theorem wrapped_incarnation_counts : ¬ ∀ (env : LoadEnv) (es : List Event),
    Runs.Admits Watch.step StaysConnected { world := World.load env } es →
      LastWins (Watch.run env es) := by
  intro h
  -- `n` adoptions bring the counter back to where it was
  obtain ⟨n, hpos, hwrap⟩ : ∃ n, 0 < n ∧ (Token.bump (2 ^ 64 - 1))^[n + 1] 5 =
      (Token.bump (2 ^ 64 - 1))^[1] 5 :=
    ⟨2 ^ 64 - 1, by omega, by
      rw [Token.iterate_bump (by omega), Token.iterate_bump (by omega) 5 0,
        Nat.add_mod_right, Nat.add_zero]⟩
  have hgone := rejoined_replicate rejoined_fileAccepted n
  have hcount := counted_run loneServer (fileAccepted ++ (List.replicate n rejoin).flatten)
  have hrun : World.run loneServer (fileAccepted ++ (List.replicate n rejoin).flatten) =
      Runs.exec World.step (World.run loneServer fileAccepted)
        (List.replicate n rejoin).flatten := Runs.exec_append ..
  rw [hrun] at hcount
  have hwins := h loneServer ((fileAccepted ++ (List.replicate n rejoin).flatten) ++
    [.completeAvatarRead 0 (some tinyPng)]) ?_
  · have hworld : (Watch.run loneServer ((fileAccepted ++ (List.replicate n rejoin).flatten) ++
        [.completeAvatarRead 0 (some tinyPng)])).world =
        (Runs.exec World.step (World.run loneServer fileAccepted)
          (List.replicate n rejoin).flatten).completeAvatarRead 0 (some tinyPng) := by
      rw [← hrun]
      exact (Watch.world_exec _ _).trans (Runs.exec_append ..)
    generalize Watch.run loneServer ((fileAccepted ++ (List.replicate n rejoin).flatten) ++
      [.completeAvatarRead 0 (some tinyPng)]) = p at hwins hworld
    generalize Runs.exec World.step (World.run loneServer fileAccepted)
      (List.replicate n rejoin).flatten = v at hgone hcount hworld
    exact not_lastWins_of_wrap hgone hpos hcount hwrap hworld hwins
  · refine Runs.admits_append.mpr ⟨Runs.admits_append.mpr ⟨?_, ?_⟩, trivial, trivial⟩
    · exact ⟨trivial, (by decide +kernel :
        (World.run loneServer [botConnects 0]).bridge.client = none), trivial, trivial⟩
    · refine Runs.admits_of_forall fun p e he => ?_
      obtain ⟨es, hes, he⟩ := List.mem_flatten.mp he
      rw [List.eq_of_mem_replicate hes] at he
      rcases List.mem_cons.mp he with rfl | he
      · trivial
      · rw [List.mem_singleton.mp he]
        trivial

end BotHider.Model
