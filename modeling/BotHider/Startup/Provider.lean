import BotHider.Lib.Rows
import BotHider.Lib.Run
import BotHider.Model.Host

/-!
# BotHider — one managed plugin presents the bots

Every version of the managed plugin loaded into the process shares the provider and the native
manager, which accepts one client at a time.

* `Host.Sound` — the invariant: who is connected, who presents, and what is held for it.
* `sound_load`, `sound_unload` — a load and an unload keep it, wherever they are left by an
  exception.
* `load_back_iff`, `load_failed` — when a load comes back, and what one that does not leaves.
* `provider_exclusive` — what holds of the process after every run.
-/

namespace BotHider.Model

namespace Host

variable {h : Host} {i c : Nat} {thread : Nat}

/-! ## The invariant -/

/-- A connected client lives on the thread of the manager and is not disposed. -/
def Legal (thread : Nat) (client : ClientObject) : Prop :=
  client.library = true → client.threadId = thread ∧ client.disposed = false

/-- A plugin object holds a client that was made, and while it is loaded the one that is
presented. -/
def Holds (made : Nat) (api : Option Nat) (plugin : PluginObject) : Prop :=
  (∀ c, plugin.client = some c → c < made) ∧
    (plugin.loaded = true → plugin.client.isSome = true ∧ plugin.client = api)

/-- No two plugin objects hold one client. -/
def Apart (plugins : List PluginObject) : Prop :=
  ∀ (i j : Nat) (p q : PluginObject) c, plugins[i]? = some p → plugins[j]? = some q →
    p.client = some c → q.client = some c → i = j

/-- The client is connected. -/
def Linked (clients : List ClientObject) (c : Nat) : Prop :=
  ∃ client, clients[c]? = some client ∧ client.library = true

/-- A loaded plugin holds the client. -/
def Held (plugins : List PluginObject) (c : Nat) : Prop :=
  ∃ (i : Nat) (p : PluginObject), plugins[i]? = some p ∧ p.loaded = true ∧ p.client = some c

/-- The clients and the manager agree: the references are those of the connected clients, of
which there is one while the manager is attached and none otherwise. -/
structure Bound (h : Host) : Prop where
  refs : h.libraryRefs = h.clients.countP ClientObject.library
  attached : h.clients.countP ClientObject.library = if h.manager.attached then 1 else 0
  ready : h.manager.attached = true → h.manager.ready = true
  legal : Rows.Every (fun _ => Legal h.bridgeThread) h.clients

/-- The clients, the plugins and the provider agree. -/
structure Sound (h : Host) : Prop extends h.Bound where
  holds : Rows.Every (fun _ => Holds h.clients.length h.provider.api) h.plugins
  apart : Apart h.plugins
  presented : ∀ c, h.provider.api = some c → Linked h.clients c ∧ Held h.plugins c
  getSlot : h.provider.getSlot = h.provider.api.isSome
  registrations : h.registrations = if h.provider.registered then 1 else 0

theorem sound_start (now : UInt64) (bridgeThread : Nat) : (start now bridgeThread).Sound where
  refs := rfl
  attached := rfl
  ready := fun h => nomatch h
  legal := Rows.every_nil
  holds := Rows.every_nil
  apart := fun _ _ _ _ _ hp => nomatch hp
  presented := fun _ h => nomatch h
  getSlot := rfl
  registrations := rfl

/-! ## Clients -/

/-- There is at most one connected client. -/
theorem Bound.countP_le_one (hb : h.Bound) : h.clients.countP ClientObject.library ≤ 1 := by
  rw [hb.attached]
  split <;> omega

/-- While a client is connected the manager is attached. -/
theorem Bound.attached_of_linked (hb : h.Bound) (hc : Linked h.clients c) :
    h.manager.attached = true := by
  obtain ⟨client, hrow, hl⟩ := hc
  by_contra ha
  have hzero := hb.attached
  rw [if_neg ha] at hzero
  exact List.countP_eq_zero.mp hzero client (List.mem_of_getElem? hrow) hl

/-- Two connected clients are one. -/
theorem Bound.eq_of_linked (hb : h.Bound) {c' : Nat} (hc : Linked h.clients c)
    (hc' : Linked h.clients c') : c = c' := by
  obtain ⟨client, hrow, hl⟩ := hc
  obtain ⟨client', hrow', hl'⟩ := hc'
  exact Rows.eq_of_countP_le_one hb.countP_le_one hrow hl hrow' hl'

/-- While the manager is attached some client is connected. -/
theorem Bound.linked_of_attached (hb : h.Bound) (ha : h.manager.attached = true) :
    ∃ c, Linked h.clients c := by
  have hone := hb.attached
  rw [if_pos ha] at hone
  obtain ⟨client, hmem, hl⟩ := List.countP_pos_iff.mp (Nat.lt_of_lt_of_eq Nat.one_pos hone.symm)
  obtain ⟨c, hc⟩ := List.mem_iff_getElem?.mp hmem
  exact ⟨c, client, hc, hl⟩

/-- Changes of the clients that keep what is presented connected. -/
theorem Sound.withClients (hs : h.Sound) (clients : List ClientObject)
    (manager : FakeClientManager) (refs : Nat)
    (hb : Bound { h with clients := clients, manager := manager, libraryRefs := refs })
    (hlength : h.clients.length ≤ clients.length)
    (hkeep : ∀ c, h.provider.api = some c → Linked h.clients c → Linked clients c) :
    Sound { h with clients := clients, manager := manager, libraryRefs := refs } where
  toBound := hb
  holds := hs.holds.mono fun _ _ hp => ⟨fun c hc => Nat.lt_of_lt_of_le (hp.1 c hc) hlength, hp.2⟩
  apart := hs.apart
  presented c hc := ⟨hkeep c hc (hs.presented c hc).1, (hs.presented c hc).2⟩
  getSlot := hs.getSlot
  registrations := hs.registrations

/-- The native side works on, attached to whom it was. -/
theorem Sound.withManager (hs : h.Sound) {manager : FakeClientManager}
    (ha : manager.attached = h.manager.attached)
    (hr : h.manager.attached = true → manager.ready = true) :
    Sound { h with manager := manager } :=
  hs.withClients h.clients manager h.libraryRefs
    { refs := hs.refs
      attached := by rw [hs.attached, ha]
      ready := fun hattached => hr (ha.symm.trans hattached)
      legal := hs.legal } le_rfl fun _ _ hlinked => hlinked

/-- Changing a client that is not connected, keeping it so. -/
theorem linked_modify_of_not {f : ClientObject → ClientObject} {c' : Nat}
    (hc : ¬ Linked h.clients c) (hf : Linked h.clients c') :
    Linked (h.clients.modify c f) c' := by
  obtain ⟨client, hrow, hl⟩ := hf
  refine ⟨client, ?_, hl⟩
  rw [List.getElem?_modify, hrow, Option.map_eq_map, Option.map_some, if_neg]
  rintro rfl
  exact hc ⟨client, hrow, hl⟩

/-- Disposing of a client that is not connected. -/
theorem sound_retire (hs : h.Sound) (hc : ¬ Linked h.clients c) :
    (h.modifyClient c fun client => { client with disposed := true }).Sound := by
  have hlibrary := Rows.countP_modify_of_eq (l := h.clients) (n := c)
    (p := ClientObject.library) (f := fun client => { client with disposed := true })
    fun _ => rfl
  refine hs.withClients _ h.manager h.libraryRefs ?_
    (List.length_modify ..).ge fun c' _ => linked_modify_of_not hc
  exact
    { refs := hs.refs.trans hlibrary.symm
      attached := hlibrary.trans hs.attached
      ready := hs.ready
      legal := hs.legal.modify fun client hrow _ hl => absurd ⟨client, hrow, hl⟩ hc }

/-- **Connecting.** A client that is not disposed becomes the connected one of a manager that is
ready and not attached. -/
theorem sound_connect (hs : h.Sound) {client : ClientObject} (hrow : h.clients[c]? = some client)
    (hthread : client.threadId = h.bridgeThread) (hdisposed : client.disposed = false)
    (hready : h.manager.ready = true) (ha : h.manager.attached = false) :
    Sound { h with
      clients := h.clients.modify c fun client => { client with library := true }
      manager := { h.manager with attached := true }
      libraryRefs := h.libraryRefs + 1 } := by
  have hnone : ∀ c', ¬ Linked h.clients c' := by
    intro c' hc'
    exact absurd (hs.attached_of_linked hc') (by simp [ha])
  have hout : client.library = false := by
    rw [Bool.eq_false_iff]
    exact fun hl => hnone c ⟨client, hrow, hl⟩
  have hcount := Rows.countP_modify (p := ClientObject.library)
    (f := fun client => { client with library := true }) hrow hout rfl
  have hzero : h.clients.countP ClientObject.library = 0 := by
    rw [hs.attached, ha]
    rfl
  refine hs.withClients _ _ _ ?_ (List.length_modify ..).ge fun c' _ => linked_modify_of_not (hnone c)
  exact
    { refs := by rw [hcount, hs.refs]
      attached := by rw [hcount, hzero, if_pos rfl]
      ready := fun _ => hready
      legal := hs.legal.modify fun client' hrow' _ _ => by
        obtain rfl := Option.some.inj (hrow.symm.trans hrow')
        exact ⟨hthread, hdisposed⟩ }

/-- **Disconnecting.** The connected client, which is not presented, gives up the manager and
its reference. -/
theorem sound_disconnect (hs : h.Sound) (hc : Linked h.clients c)
    (hapi : h.provider.api ≠ some c) :
    Sound { h with
      clients := (h.clients.modify c fun client => { client with disposed := true }).modify c
        fun client => { client with library := false }
      manager := h.manager.detach
      libraryRefs := h.libraryRefs - 1 } := by
  obtain ⟨client, hrow, hl⟩ := hc
  rw [List.modify_modify_eq]
  have hcount := Rows.countP_modify_out (p := ClientObject.library)
    (f := (fun client => { client with library := false }) ∘
      fun client => { client with disposed := true }) hrow hl rfl
  have hone : h.clients.countP ClientObject.library = 1 := by
    rw [hs.attached, if_pos (hs.attached_of_linked ⟨client, hrow, hl⟩)]
  have hzero := Nat.succ.inj (hcount.trans hone)
  refine hs.withClients _ _ _ ?_ (List.length_modify ..).ge ?_
  · exact
      { refs := (by rw [hs.refs, hone] : h.libraryRefs - 1 = 0).trans hzero.symm
        attached := hzero
        ready := fun ha => nomatch ha
        legal := hs.legal.modify fun _ _ _ hl' => nomatch hl' }
  · intro c' hc' hlinked
    exact absurd (hs.eq_of_linked hlinked ⟨client, hrow, hl⟩ ▸ hc') hapi

/-! ## Plugins -/

theorem Apart.modify {plugins : List PluginObject} {f : PluginObject → PluginObject}
    (ha : Apart plugins) (hf : ∀ p c, (f p).client = some c → p.client = some c) :
    Apart (plugins.modify i f) := by
  intro j k p q c hp hq hpc hqc
  rw [List.getElem?_modify] at hp hq
  obtain ⟨p', hp', rfl⟩ := Option.map_eq_some_iff.mp hp
  obtain ⟨q', hq', rfl⟩ := Option.map_eq_some_iff.mp hq
  refine ha j k p' q' c hp' hq' ?_ ?_
  · split at hpc
    · exact hf p' c hpc
    · exact hpc
  · split at hqc
    · exact hf q' c hqc
    · exact hqc

/-- A change of a plugin that is not loaded leaves the loaded ones. -/
theorem held_modify {f : PluginObject → PluginObject} (hc : Held h.plugins c)
    (hidle : ∀ p, h.plugins[i]? = some p → p.loaded = false) :
    Held (h.plugins.modify i f) c := by
  obtain ⟨j, p, hrow, hl, hpc⟩ := hc
  refine ⟨j, p, ?_, hl, hpc⟩
  rw [List.getElem?_modify, hrow, Option.map_eq_map, Option.map_some, if_neg]
  rintro rfl
  exact absurd hl (by simp [hidle p hrow])

/-- A plugin that is not loaded is changed and stays so, with its client or none. -/
theorem sound_idle (hs : h.Sound) {f : PluginObject → PluginObject}
    (hidle : ∀ p, h.plugins[i]? = some p → p.loaded = false ∧ (f p).loaded = false)
    (hf : ∀ p c, (f p).client = some c → p.client = some c) : (h.modifyPlugin i f).Sound where
  toBound := ⟨hs.refs, hs.attached, hs.ready, hs.legal⟩
  holds := hs.holds.modify fun p hrow hp =>
    ⟨fun c hc => hp.1 c (hf p c hc), fun hl => absurd hl (by simp [(hidle p hrow).2])⟩
  apart := hs.apart.modify hf
  presented c hc :=
    ⟨(hs.presented c hc).1, held_modify (hs.presented c hc).2 fun p hrow => (hidle p hrow).1⟩
  getSlot := hs.getSlot
  registrations := hs.registrations

/-- A plugin that is loaded holds the client that is presented. -/
theorem Sound.api_of_loaded (hs : h.Sound) {p : PluginObject} (hrow : h.plugins[i]? = some p)
    (hl : p.loaded = true) : ∃ c, p.client = some c ∧ h.provider.api = some c := by
  obtain ⟨hsome, hapi⟩ := (hs.holds i p hrow).2 hl
  obtain ⟨c, hc⟩ := Option.isSome_iff_exists.mp hsome
  exact ⟨c, hc, hapi.symm.trans hc⟩

/-- One plugin is loaded at most. -/
theorem Sound.eq_of_loaded (hs : h.Sound) {j : Nat} {p q : PluginObject}
    (hp : h.plugins[i]? = some p) (hlp : p.loaded = true) (hq : h.plugins[j]? = some q)
    (hlq : q.loaded = true) : i = j := by
  obtain ⟨c, hpc, hc⟩ := hs.api_of_loaded hp hlp
  obtain ⟨c', hqc, hc'⟩ := hs.api_of_loaded hq hlq
  obtain rfl := Option.some.inj (hc.symm.trans hc')
  exact hs.apart i j p q c hp hq hpc hqc

/-- **Withdrawing.** A plugin is no longer loaded, and the provider lets go of its client. -/
theorem sound_withdraw (hs : h.Sound) {p : PluginObject} (hrow : h.plugins[i]? = some p) :
    ((h.modifyPlugin i fun plugin =>
      { plugin with harmony := false, loaded := false }).detachProvider p.client).Sound := by
  unfold detachProvider
  split
  · rename_i hne
    refine sound_idle hs (fun p' hrow' => ⟨?_, rfl⟩) fun _ _ hc => hc
    obtain rfl := Option.some.inj (hrow.symm.trans hrow')
    by_contra hl
    exact hne ((hs.holds i p hrow).2 (by simpa using hl)).2.symm
  · rename_i heq
    rw [not_not] at heq
    -- whoever is loaded holds what this plugin holds, so it is this plugin
    have honly : Rows.Every (fun j q => Holds h.clients.length h.provider.api q ∧
        (q.loaded = true → j = i)) h.plugins := by
      intro j q hq
      refine ⟨hs.holds j q hq, fun hl => ?_⟩
      obtain ⟨c, hqc, hc⟩ := hs.api_of_loaded hq hl
      exact hs.apart j i q p c hq hrow hqc (heq.symm.trans hc)
    exact
      { toBound := ⟨hs.refs, hs.attached, hs.ready, hs.legal⟩
        holds := honly.modify_of (fun j q hne hq => ⟨hq.1.1, fun hl => absurd (hq.2 hl) hne⟩)
          fun _ _ hq => ⟨hq.1.1, fun hl => nomatch hl⟩
        apart := hs.apart.modify fun _ _ hc => hc
        presented := fun _ hc => nomatch hc
        getSlot := rfl
        registrations := hs.registrations }

/-- **Presenting.** The provider takes the connected client of a plugin, which is then loaded. -/
theorem sound_present (hs : h.Sound) {p : PluginObject} (hrow : h.plugins[i]? = some p)
    (hl : p.loaded = false) (hpc : p.client = some c) (hc : Linked h.clients c)
    {registered : Bool} {registrations patches : Nat}
    (hreg : registrations = if registered then 1 else 0) :
    Sound { h with
      plugins := h.plugins.modify i fun plugin => { plugin with harmony := true, loaded := true }
      provider := { api := some c, getSlot := true, registered := registered }
      registrations := registrations
      patches := patches } := by
  -- what was presented would be this client, held by this plugin
  have hnone : h.provider.api = none := by
    refine Option.eq_none_iff_forall_ne_some.mpr fun c' hc' => ?_
    obtain ⟨hlinked, j, q, hq, hlq, hqc⟩ := hs.presented c' hc'
    obtain rfl := hs.eq_of_linked hlinked hc
    obtain rfl := hs.apart j i q p c' hq hrow hqc hpc
    obtain rfl := Option.some.inj (hrow.symm.trans hq)
    exact absurd hlq (by simp [hl])
  have hidle : ∀ q, Holds h.clients.length h.provider.api q → q.loaded = false := by
    intro q hq
    rw [Bool.eq_false_iff]
    intro hlq
    obtain ⟨hsome, hapi⟩ := hq.2 hlq
    rw [hapi, hnone] at hsome
    exact absurd hsome (by simp)
  exact
    { toBound := ⟨hs.refs, hs.attached, hs.ready, hs.legal⟩
      holds := hs.holds.modify_of
        (fun j q _ hq => ⟨hq.1, fun hlq => absurd hlq (by simp [hidle q hq])⟩)
        fun q hq hholds => by
          obtain rfl := Option.some.inj (hrow.symm.trans hq)
          exact ⟨hholds.1, fun _ => ⟨by simp [hpc], hpc⟩⟩
      apart := hs.apart.modify fun _ _ hc => hc
      presented := fun c' hc' => by
        obtain rfl := Option.some.inj hc'
        refine ⟨hc, i, { p with harmony := true, loaded := true }, ?_, rfl, hpc⟩
        rw [List.getElem?_modify_eq, hrow]
        rfl
      getSlot := rfl
      registrations := hreg }

/-! ## Unloading -/

/-- What a plugin gives up on the thread of its connected client. -/
theorem dispose_linked {client : ClientObject} (hrow : h.clients[c]? = some client)
    (hthread : client.threadId = h.bridgeThread) (hl : client.library = true)
    (hdisposed : client.disposed = false) (hready : h.manager.ready = true) :
    h.dispose c h.bridgeThread =
      ({ h with
        clients := (h.clients.modify c fun client => { client with disposed := true }).modify c
          fun client => { client with library := false }
        manager := h.manager.detach
        libraryRefs := h.libraryRefs - 1 }, true) := by
  unfold dispose
  rw [hrow]
  simp only [hdisposed, hthread, hl, modifyClient, bhDetach, hready, Bool.false_eq_true, if_false,
    bne_self_eq_false, Bool.not_true, beq_self_eq_true, Bool.and_self, if_true]

/-- **Disposing.** A client that is not presented may be disposed of, on whatever thread. -/
theorem sound_dispose (thread : Nat) (hs : h.Sound) (hapi : h.provider.api ≠ some c) :
    (h.dispose c thread).1.Sound := by
  cases hrow : h.clients[c]? with
  | none =>
    unfold dispose
    rwa [hrow]
  | some client =>
    by_cases hdisposed : client.disposed = true
    · unfold dispose
      rw [hrow]
      simpa [hdisposed] using hs
    · by_cases hthread : client.threadId = thread
      · by_cases hl : client.library = true
        · obtain ⟨hon, hnot⟩ := hs.legal c client hrow hl
          have hready := hs.ready (hs.attached_of_linked ⟨client, hrow, hl⟩)
          subst hthread
          rw [hon, dispose_linked hrow hon hl hnot hready]
          exact sound_disconnect hs ⟨client, hrow, hl⟩ hapi
        · have hretire := sound_retire (c := c) hs fun ⟨client', hrow', hl'⟩ => hl (by
            rwa [Option.some.inj (hrow.symm.trans hrow')])
          unfold dispose
          rw [hrow]
          simpa [hdisposed, hthread, hl] using hretire
      · unfold dispose
        rw [hrow]
        simpa [hdisposed, hthread] using hs

theorem plugins_dispose (h : Host) (c thread : Nat) :
    (h.dispose c thread).1.plugins = h.plugins := by
  unfold dispose bhDetach
  split
  · rfl
  · split
    · rfl
    · split
      · rfl
      · dsimp only
        split
        · rfl
        · split <;> rfl

theorem sound_patches (hs : h.Sound) (patches : Nat) : Sound { h with patches := patches } :=
  ⟨⟨hs.refs, hs.attached, hs.ready, hs.legal⟩, hs.holds, hs.apart, hs.presented, hs.getSlot,
    hs.registrations⟩

/-- The provider lets go of the client it is given. -/
theorem api_detachProvider {client : Option Nat} (hc : client = some c) :
    (h.detachProvider client).provider.api ≠ some c := by
  unfold detachProvider
  split
  · rename_i hne
    rwa [hc] at hne
  · exact fun h => nomatch h

theorem plugins_detachProvider (client : Option Nat) :
    (h.detachProvider client).plugins = h.plugins := by
  unfold detachProvider
  split <;> rfl

/-- **Unloading** keeps the invariant, on whatever thread and whether or not something throws. -/
theorem sound_unload (hs : h.Sound) (i thread : Nat) (unpatch : Bool) :
    (h.unload i thread unpatch).1.Sound := by
  unfold unload
  cases hrow : h.plugins[i]? with
  | none => exact hs
  | some plugin =>
    dsimp only
    generalize hg : (if (plugin.harmony && !unpatch) = true then { h with patches := 0 } else h) = g
    have hgs : g.Sound ∧ g.plugins = h.plugins := by
      subst hg
      split
      · exact ⟨sound_patches hs 0, rfl⟩
      · exact ⟨hs, rfl⟩
    have hrow' : g.plugins[i]? = some plugin := by rw [hgs.2, hrow]
    have hwithdrawn := sound_withdraw hgs.1 hrow'
    cases hc : plugin.client with
    | none =>
      rw [hc] at hwithdrawn
      exact hwithdrawn
    | some c =>
      rw [hc] at hwithdrawn
      have hdisposed := sound_dispose thread hwithdrawn (api_detachProvider rfl)
      dsimp only
      split
      · exact hdisposed
      · refine sound_idle hdisposed (fun p hp => ?_) fun _ _ h => nomatch h
        rw [plugins_dispose, plugins_detachProvider] at hp
        unfold modifyPlugin at hp
        rw [List.getElem?_modify_eq, hrow'] at hp
        obtain rfl := Option.some.inj hp
        exact ⟨rfl, rfl⟩

/-- Unloading does not ask whether a load came back. -/
theorem unload_mark (h : Host) (i thread : Nat) (unpatch : Bool) :
    (h.modifyPlugin i fun plugin => { plugin with loaded := true }).unload i thread unpatch =
      h.unload i thread unpatch := by
  have hmark : ∀ patches : Nat,
      ({ h with
        plugins := h.plugins.modify i fun plugin => { plugin with loaded := true }
        patches := patches } : Host).modifyPlugin i
          (fun plugin => { plugin with harmony := false, loaded := false }) =
        ({ h with patches := patches } : Host).modifyPlugin i
          fun plugin => { plugin with harmony := false, loaded := false } := by
    intro patches
    unfold modifyPlugin
    rw [List.modify_modify_eq]
    rfl
  cases hrow : h.plugins[i]? with
  | none =>
    have hlength := List.getElem?_eq_none_iff.mp hrow
    unfold modifyPlugin
    rw [List.modify_eq_self hlength]
  | some plugin =>
    unfold unload
    rw [modifyPlugin, List.getElem?_modify_eq, hrow]
    have hzero := hmark 0
    have hsame := hmark h.patches
    dsimp only [Option.map_eq_map, Option.map_some]
    by_cases htaken : (plugin.harmony && !unpatch) = true
    · rw [if_pos htaken, if_pos htaken, hzero]
    · rw [if_neg htaken, if_neg htaken, hsame]

/-- What a plugin with a connected client gives back on that client's thread. -/
theorem unload_linked (hb : h.Bound) {p : PluginObject} (hrow : h.plugins[i]? = some p)
    (hpc : p.client = some c) (hc : Linked h.clients c) (unpatch : Bool) :
    (h.unload i h.bridgeThread unpatch).1.manager = h.manager.detach ∧
      (h.unload i h.bridgeThread unpatch).1.libraryRefs = h.libraryRefs - 1 ∧
      (h.unload i h.bridgeThread unpatch).1.provider = (h.detachProvider (some c)).provider := by
  obtain ⟨client, hclient, hl⟩ := hc
  obtain ⟨hthread, hdisposed⟩ := hb.legal c client hclient hl
  have hready := hb.ready (hb.attached_of_linked ⟨client, hclient, hl⟩)
  unfold unload
  rw [hrow]
  dsimp only
  rw [hpc]
  dsimp only
  generalize hg : ((if (p.harmony && !unpatch) = true then { h with patches := 0 }
    else h).modifyPlugin i fun plugin =>
      { plugin with harmony := false, loaded := false }).detachProvider (some c) = g
  have hgh : g.clients = h.clients ∧ g.bridgeThread = h.bridgeThread ∧ g.manager = h.manager ∧
      g.libraryRefs = h.libraryRefs ∧ g.provider = (h.detachProvider (some c)).provider := by
    subst hg
    unfold detachProvider modifyPlugin
    split <;> split <;> simp_all
  obtain ⟨hclients, hbridge, hmanager, hrefs, hprovider⟩ := hgh
  have hdispose := dispose_linked (h := g) (by rw [hclients, hclient]) (hthread.trans hbridge.symm)
    hl hdisposed (by rw [hmanager, hready])
  rw [hbridge] at hdispose
  rw [hdispose]
  exact ⟨congrArg FakeClientManager.detach hmanager, congrArg (· - 1) hrefs, hprovider⟩

/-! ## Loading -/

/-- A plugin object is made, which holds a client of its own or none yet. -/
theorem sound_make (hs : h.Sound) (thread : Nat) :
    Sound { h with plugins := h.plugins ++ [{}] } ∧
      Sound { h with
        plugins := h.plugins ++ [{ client := some h.clients.length }]
        clients := h.clients ++ [{ threadId := thread }] } := by
  have hfresh : ∀ (j : Nat) (p : PluginObject), h.plugins[j]? = some p →
      p.client ≠ some h.clients.length := by
    intro j p hp hpc
    exact absurd ((hs.holds j p hp).1 _ hpc) (Nat.lt_irrefl _)
  have hapart : ∀ new : PluginObject, (∀ c, new.client = some c → c = h.clients.length) →
      Apart (h.plugins ++ [new]) := by
    intro new hnew j k p q c hp hq hpc hqc
    rw [List.getElem?_append] at hp hq
    have hlast : ∀ {l} {r : PluginObject}, [new][l - h.plugins.length]? = some r →
        r.client = some c → l - h.plugins.length = 0 ∧ c = h.clients.length := by
      intro l r hr hrc
      obtain ⟨hl, rfl⟩ := List.getElem?_eq_some_iff.mp hr
      rw [List.length_singleton] at hl
      refine ⟨by omega, hnew c ?_⟩
      simpa using hrc
    split at hp <;> split at hq
    · exact hs.apart j k p q c hp hq hpc hqc
    · obtain ⟨-, rfl⟩ := hlast hq hqc
      exact absurd hpc (hfresh j p hp)
    · obtain ⟨-, rfl⟩ := hlast hp hpc
      exact absurd hqc (hfresh k q hq)
    · obtain ⟨hj, -⟩ := hlast hp hpc
      obtain ⟨hk, -⟩ := hlast hq hqc
      omega
  have hheld : ∀ (new : PluginObject) c, Held h.plugins c → Held (h.plugins ++ [new]) c := by
    intro new c ⟨j, p, hp, hl, hpc⟩
    refine ⟨j, p, ?_, hl, hpc⟩
    rw [List.getElem?_append_left (List.getElem?_eq_some_iff.mp hp).1, hp]
  have hcount : (h.clients ++ [({ threadId := thread } : ClientObject)]).countP
      ClientObject.library = h.clients.countP ClientObject.library := by
    rw [List.countP_append]
    rfl
  constructor
  · exact
      { toBound := ⟨hs.refs, hs.attached, hs.ready, hs.legal⟩
        holds := hs.holds.snoc ⟨(fun c hc => nomatch hc), fun hl => nomatch hl⟩
        apart := hapart {} fun c hc => nomatch hc
        presented := fun c hc => ⟨(hs.presented c hc).1, hheld _ c (hs.presented c hc).2⟩
        getSlot := hs.getSlot
        registrations := hs.registrations }
  · have hlonger : h.clients.length <
        (h.clients ++ [({ threadId := thread } : ClientObject)]).length := by simp
    exact
      { refs := hs.refs.trans hcount.symm
        attached := hcount.trans hs.attached
        ready := hs.ready
        legal := hs.legal.snoc fun hl => nomatch hl
        holds := (hs.holds.mono fun _ _ hp => ⟨fun c hc => (hp.1 c hc).trans hlonger, hp.2⟩).snoc
          ⟨fun c hc => by obtain rfl := Option.some.inj hc; exact hlonger, fun hl => nomatch hl⟩
        apart := hapart _ fun c hc => (Option.some.inj hc).symm
        presented := fun c hc => by
          obtain ⟨⟨client, hrow, hl⟩, hplugin⟩ := hs.presented c hc
          refine ⟨⟨client, ?_, hl⟩, hheld _ c hplugin⟩
          rw [List.getElem?_append_left (List.getElem?_eq_some_iff.mp hrow).1, hrow]
        getSlot := hs.getSlot
        registrations := hs.registrations }

/-- The host of a load whose client has been made. -/
def opened (h : Host) (thread : Nat) : Host :=
  { h with
    plugins := h.plugins ++ [{ client := some h.clients.length }]
    clients := h.clients ++ [{ threadId := thread }] }

/-- And of one whose client is connected. -/
def joined (h : Host) (thread : Nat) : Host :=
  { h with
    plugins := h.plugins ++ [{ client := some h.clients.length }]
    clients := h.clients ++ [{ threadId := thread, library := true }]
    manager := { h.manager with attached := true }
    libraryRefs := h.libraryRefs + 1 }

/-- What connecting takes: the library with its entry point, and a manager on this thread that
is ready and that no other client is attached to. -/
structure Free (h : Host) (thread : Nat) (f : LoadFaults) : Prop where
  library : f.library = .loaded
  attachEntry : f.attachEntry = none
  bridgeThread : thread = h.bridgeThread
  ready : h.manager.ready = true
  attached : h.manager.attached = false

theorem tryConnect_of_free {f : LoadFaults} (hf : h.Free thread f) :
    (h.opened thread).tryConnect h.clients.length thread f = (h.joined thread, .connected) := by
  have hrow : (h.opened thread).clients[h.clients.length]? = some { threadId := thread } :=
    List.getElem?_concat_length
  unfold tryConnect
  rw [hrow, hf.library, hf.attachEntry]
  simp only [bne_self_eq_false, Bool.or_false, Bool.false_eq_true, if_false]
  simp [opened, joined, bhAttach, FakeClientManager.attach, hf.ready, hf.attached,
    hf.bridgeThread, modifyClient, Rows.modify_snoc]

/-- `BH_Attach` refuses on another thread, before `Init` and while a client is attached. -/
theorem bhAttach_of_not (h : Host) (thread : Nat) (hr : ¬ (thread = h.bridgeThread ∧
    h.manager.ready = true ∧ h.manager.attached = false)) : h.bhAttach thread = (h, false) := by
  have hattach : h.manager.attach (thread == h.bridgeThread) = (h.manager, false) := by
    unfold FakeClientManager.attach
    split
    · rfl
    · rename_i hopen
      exact absurd (by simpa [and_assoc] using hopen) hr
  unfold bhAttach
  rw [hattach]

/-- Without it the host is left with a client that is not connected. -/
theorem tryConnect_of_not_free {f : LoadFaults} (hf : ¬ h.Free thread f) :
    (h.opened thread).tryConnect h.clients.length thread f = (h.opened thread, .thrown) ∨
      ∃ error, (h.opened thread).tryConnect h.clients.length thread f =
        (h.opened thread, .refused error) := by
  have hrow : (h.opened thread).clients[h.clients.length]? = some { threadId := thread } :=
    List.getElem?_concat_length
  unfold tryConnect
  rw [hrow]
  simp only [bne_self_eq_false, Bool.or_false, Bool.false_eq_true, if_false]
  cases hlibrary : f.library with
  | thrown => exact Or.inl rfl
  | missing message => exact Or.inr ⟨message, rfl⟩
  | loaded =>
    cases hentry : f.attachEntry with
    | some message => exact Or.inr ⟨message, by simp⟩
    | none =>
      have hrefused := bhAttach_of_not
        { h.opened thread with libraryRefs := (h.opened thread).libraryRefs + 1 } thread
        fun ⟨hthread, hready, hattached⟩ => hf ⟨hlibrary, hentry, hthread, hready, hattached⟩
      refine Or.inr ⟨"BH_Attach rejected", ?_⟩
      dsimp only
      rw [hrefused]
      rfl

/-- The provider of a host that presents a client. -/
def provided (h : Host) (c : Nat) : Host :=
  { h with
    provider := { api := some c, getSlot := true, registered := true }
    registrations := if h.provider.registered then h.registrations else h.registrations + 1 }

/-- Registering the capability fails once at most: it is done only if it never was. -/
theorem attachProvider_eq (h : Host) (c : Nat) (throws : Bool) :
    h.attachProvider c throws =
      if (!h.provider.registered && throws) = true then (h, false) else (h.provided c, true) := by
  unfold attachProvider provided
  cases hregistered : h.provider.registered <;> cases throws <;> simp [hregistered]

/-- The host after the `try` block as far as it got with the provider: the plugin is loaded. -/
def shown (h : Host) (i c patches : Nat) : Host :=
  { h.provided c with
    plugins := h.plugins.modify i fun plugin => { plugin with harmony := true, loaded := true }
    patches := patches }

/-- **Activation.** It fails before the provider is attached and changes nothing, or later and
leaves a host that unloads as a loaded one does, or it gets to its end. -/
theorem activate_cases (h : Host) (i c : Nat) (f : LoadFaults) :
    ((!h.provider.registered && f.register) = true ∧ h.activate i c f = (h, false)) ∨
      ((!h.provider.registered && f.register) = false ∧
        (((f.patch || f.listeners) = true ∧ (h.activate i c f).2 = false ∧
            ∃ patches, ∀ thread unpatch, (h.activate i c f).1.unload i thread unpatch =
              (h.shown i c patches).unload i thread unpatch) ∨
          ((f.patch || f.listeners) = false ∧
            h.activate i c f = (h.shown i c (h.patches + 1), true)))) := by
  have hmark : ∀ patches, ({ h.provided c with
      plugins := h.plugins.modify i fun plugin => { plugin with harmony := true }
      patches := patches } : Host).modifyPlugin i (fun plugin => { plugin with loaded := true }) =
        h.shown i c patches := by
    intro patches
    unfold modifyPlugin shown
    rw [List.modify_modify_eq]
    rfl
  have hunmarked : ∀ patches thread unpatch, ({ h.provided c with
      plugins := h.plugins.modify i fun plugin => { plugin with harmony := true }
      patches := patches } : Host).unload i thread unpatch =
        (h.shown i c patches).unload i thread unpatch := by
    intro patches thread unpatch
    rw [← hmark patches, unload_mark]
  unfold activate
  rw [attachProvider_eq]
  cases hregister : !h.provider.registered && f.register with
  | true => exact Or.inl ⟨rfl, rfl⟩
  | false =>
    refine Or.inr ⟨rfl, ?_⟩
    simp only [Bool.false_eq_true, if_false, Bool.not_true]
    cases f.patch with
    | true => exact Or.inl ⟨rfl, rfl, h.patches, hunmarked h.patches⟩
    | false =>
      cases f.listeners with
      | true => exact Or.inl ⟨rfl, rfl, h.patches + 1, hunmarked (h.patches + 1)⟩
      | false => exact Or.inr ⟨rfl, congrArg (·, true) (hmark (h.patches + 1))⟩

/-- Everything a load takes to come back. -/
structure Loads (h : Host) (thread : Nat) (f : LoadFaults) : Prop extends h.Free thread f where
  permissions : f.permissions = false
  register : (!h.provider.registered && f.register) = false
  activation : (f.patch || f.listeners) = false

/-- What a load that fails has given back: the manager is attached to whom it was, the library
is referred to as before, and what is presented is what was. -/
structure Returned (h q : Host) : Prop where
  manager : q.manager = h.manager
  refs : q.libraryRefs = h.libraryRefs
  api : q.provider.api = h.provider.api

/-- A load whose permissions were read goes on from the host with the client made. -/
theorem load_opened (h : Host) (thread : Nat) {f : LoadFaults} (hf : f.permissions = false) :
    h.load thread f =
      match (h.opened thread).tryConnect h.clients.length thread f with
      | (h, .thrown) => (h, .threw none)
      | (q, .refused error) =>
        ((q.dispose h.clients.length thread).1.modifyPlugin h.plugins.length
          fun plugin => { plugin with client := none },
          .threw (some ("BotHider bridge failed: " ++ error)))
      | (q, .connected) =>
        if (q.activate h.plugins.length h.clients.length f).2 then
          ((q.activate h.plugins.length h.clients.length f).1, .back)
        else
          (((q.activate h.plugins.length h.clients.length f).1.unload h.plugins.length thread
            f.unpatch).1, .threw none) := by
  have hopened : ({ h with
      plugins := h.plugins ++ [{}]
      clients := h.clients ++ [{ threadId := thread }] } : Host).modifyPlugin h.plugins.length
        (fun plugin => { plugin with client := some h.clients.length }) = h.opened thread := by
    unfold modifyPlugin opened
    rw [Rows.modify_snoc]
  have hread : ¬ f.permissions = true := by simp [hf]
  rw [← hopened]
  exact if_neg hread

theorem sound_joined (hs : h.Sound) {f : LoadFaults} (hf : h.Free thread f) :
    (h.joined thread).Sound := by
  have hconnect := sound_connect (sound_make hs thread).2 (c := h.clients.length)
    List.getElem?_concat_length hf.bridgeThread rfl hf.ready hf.attached
  dsimp only at hconnect
  rwa [Rows.modify_snoc] at hconnect

/-- The row of the plugin object a load makes. -/
theorem plugins_joined (h : Host) (thread : Nat) :
    (h.joined thread).plugins[h.plugins.length]? = some { client := some h.clients.length } :=
  List.getElem?_concat_length

theorem linked_joined (h : Host) (thread : Nat) :
    Linked (h.joined thread).clients h.clients.length :=
  ⟨_, List.getElem?_concat_length, rfl⟩

theorem sound_shown (hs : h.Sound) {f : LoadFaults} (hf : h.Free thread f) (patches : Nat) :
    ((h.joined thread).shown h.plugins.length h.clients.length patches).Sound := by
  refine sound_present (sound_joined hs hf) (plugins_joined h thread) rfl rfl
    (linked_joined h thread) ?_
  change (if h.provider.registered then h.registrations else h.registrations + 1) = 1
  rw [hs.registrations]
  split <;> rfl

/-- A load that has all it takes comes back, and its plugin is the one that presents. -/
theorem load_of_loads {f : LoadFaults} (hf : h.Loads thread f) :
    h.load thread f =
      ((h.joined thread).shown h.plugins.length h.clients.length (h.patches + 1), .back) := by
  rw [load_opened h thread hf.permissions, tryConnect_of_free hf.toFree]
  dsimp only
  rcases activate_cases (h.joined thread) h.plugins.length h.clients.length f with
    ⟨hregister, -⟩ | ⟨-, ⟨hfail, -⟩ | ⟨-, hok⟩⟩
  · exact absurd hregister (by rw [Bool.not_eq_true]; exact hf.register)
  · exact absurd hfail (by simp [hf.activation])
  · rw [hok]
    rfl

/-- A connected client is given up again by an unload that follows in the same load. -/
theorem returned_unload (hs : h.Sound) {f : LoadFaults} (hf : h.Free thread f) {q : Host}
    (hq : q.Sound) (hmanager : q.manager = (h.joined thread).manager)
    (hrefs : q.libraryRefs = h.libraryRefs + 1) (hthread : q.bridgeThread = h.bridgeThread)
    (hapi : q.provider.api = h.provider.api ∨ q.provider.api = some h.clients.length)
    {p : PluginObject} (hrow : q.plugins[i]? = some p) (hpc : p.client = some h.clients.length)
    (hlinked : Linked q.clients h.clients.length) (unpatch : Bool) :
    h.Returned (q.unload i thread unpatch).1 := by
  have hnone : h.provider.api = none := by
    refine Option.eq_none_iff_forall_ne_some.mpr fun c hc => ?_
    exact absurd (hs.attached_of_linked (hs.presented c hc).1) (by simp [hf.attached])
  obtain ⟨hm, hr, hp⟩ := unload_linked hq.toBound hrow hpc hlinked unpatch
  rw [hthread, ← hf.bridgeThread] at hm hr hp
  refine ⟨?_, ?_, ?_⟩
  · rw [hm, hmanager]
    unfold FakeClientManager.detach joined
    rw [← hf.attached]
  · rw [hr, hrefs, Nat.add_sub_cancel]
  · rw [hp, hnone]
    unfold detachProvider
    split
    · rename_i hne
      rcases hapi with hapi | hapi
      · exact hapi.trans hnone
      · exact absurd hapi hne
    · rfl

theorem threw_ne_back (message : Option String) : LoadResult.threw message ≠ .back :=
  fun h => nomatch h

/-- **A load that fails.** Wherever the exception came from, the host keeps its invariant and
has back what the load took. -/
theorem load_of_not_loads (hs : h.Sound) {f : LoadFaults} (hf : ¬ h.Loads thread f) :
    (h.load thread f).1.Sound ∧ (h.load thread f).2 ≠ .back ∧
      h.Returned (h.load thread f).1 := by
  cases hpermissions : f.permissions with
  | true =>
    have hload : h.load thread f = ({ h with plugins := h.plugins ++ [{}] }, .threw none) := by
      unfold load
      rw [hpermissions]
      rfl
    rw [hload]
    exact ⟨(sound_make hs thread).1, threw_ne_back _, ⟨rfl, rfl, rfl⟩⟩
  | false =>
    rw [load_opened h thread hpermissions]
    have hopened := (sound_make hs thread).2
    by_cases hfree : h.Free thread f
    · rw [tryConnect_of_free hfree]
      dsimp only
      have hjoined := sound_joined hs hfree
      rcases activate_cases (h.joined thread) h.plugins.length h.clients.length f with
        ⟨-, hfail⟩ | ⟨hregister, ⟨-, hfail, patches, hunload⟩ | ⟨hactivation, -⟩⟩
      · rw [hfail, if_neg (by simp)]
        refine ⟨sound_unload hjoined .., threw_ne_back _, ?_⟩
        exact returned_unload hs hfree hjoined rfl rfl rfl (Or.inl rfl) (plugins_joined h thread)
          rfl (linked_joined h thread) _
      · rw [hfail, if_neg (by simp), hunload]
        refine ⟨sound_unload (sound_shown hs hfree patches) .., threw_ne_back _, ?_⟩
        refine returned_unload hs hfree (sound_shown hs hfree patches) rfl rfl rfl (Or.inr rfl)
          (p := { client := some h.clients.length, harmony := true, loaded := true }) ?_ rfl
          (linked_joined h thread) _
        unfold shown
        rw [List.getElem?_modify_eq, plugins_joined]
        rfl
      · exact absurd ⟨hfree, hpermissions, hregister, hactivation⟩ hf
    · rcases tryConnect_of_not_free hfree with hthrown | ⟨error, hrefused⟩
      · rw [hthrown]
        exact ⟨hopened, threw_ne_back _, ⟨rfl, rfl, rfl⟩⟩
      · rw [hrefused]
        dsimp only
        have hnot : ¬ Linked (h.opened thread).clients h.clients.length := by
          rintro ⟨client, hrow, hl⟩
          obtain rfl := Option.some.inj (List.getElem?_concat_length.symm.trans hrow)
          exact absurd hl (by simp)
        have hdispose : (h.opened thread).dispose h.clients.length thread =
            ((h.opened thread).modifyClient h.clients.length
              fun client => { client with disposed := true }, true) := by
          unfold dispose
          rw [show (h.opened thread).clients[h.clients.length]? = some { threadId := thread } from
            List.getElem?_concat_length]
          simp
        rw [hdispose]
        refine ⟨?_, threw_ne_back _, ⟨rfl, rfl, rfl⟩⟩
        refine sound_idle (sound_retire hopened hnot) (fun p hrow => ?_) fun _ _ h => nomatch h
        obtain rfl := Option.some.inj (List.getElem?_concat_length.symm.trans hrow)
        exact ⟨rfl, rfl⟩

/-! ## Runs -/

/-- What is promised of an event: the native plugin is initialised when it is not ready. -/
def Promised (h : Host) : HostEvent → Prop
  | .nativeInit _ => h.manager.ready = false
  | _ => True

/-- One event of the process. -/
theorem sound_step (hs : h.Sound) {e : HostEvent} (hpromised : h.Promised e) :
    (h.step e).Sound := by
  cases e with
  | nativeInit now =>
    have ha : h.manager.attached = false := by
      rw [Bool.eq_false_iff]
      intro ha
      exact absurd ((hs.ready ha).symm.trans hpromised) (by simp)
    exact hs.withManager ha.symm fun _ => rfl
  | nativeSlots slots => exact hs.withManager rfl hs.ready
  | load thread f =>
    by_cases hf : h.Loads thread f
    · change (h.load thread f).1.Sound
      rw [load_of_loads hf]
      exact sound_shown hs hf.toFree _
    · exact (load_of_not_loads hs hf).1
  | unload i thread unpatch => exact sound_unload hs i thread unpatch

theorem isConnected_iff (h : Host) (c thread : Nat) :
    h.isConnected c thread = true ↔
      ∃ client, h.clients[c]? = some client ∧ client.library = true ∧
        client.threadId = thread := by
  unfold isConnected
  cases h.clients[c]? <;> simp

/-- A presented client is connected on the thread of the manager, and nowhere else. -/
theorem Sound.isConnected_api (hs : h.Sound) (hc : h.provider.api = some c) (thread : Nat) :
    h.isConnected c thread = (thread == h.bridgeThread) := by
  obtain ⟨client, hrow, hl⟩ := (hs.presented c hc).1
  obtain ⟨hthread, -⟩ := hs.legal c client hrow hl
  unfold isConnected
  rw [hrow, ← hthread, Bool.beq_comm]
  simp [hl]

/-- What every plugin may rely on. The manager is attached exactly while a client is connected;
that is one client, on the manager's thread, with the one reference to the library. At most one
plugin is loaded, and what the provider hands out is its client. The answer of `IsBot` is only
ever raised, on the manager's thread, to that of the slot's record. A load comes back exactly
if it has all it takes, and one that does not gives back what it took. -/
structure Exclusive (h : Host) : Prop where
  attached : h.manager.attached = true ↔ ∃ c thread, h.isConnected c thread = true
  refs : h.libraryRefs = if h.manager.attached then 1 else 0
  connected : ∀ c c' thread thread', h.isConnected c thread = true →
    h.isConnected c' thread' = true → c = c' ∧ thread = h.bridgeThread
  api : ∀ c, h.provider.api = some c ↔ Held h.plugins c
  presented : ∀ c, h.provider.api = some c → h.isConnected c h.bridgeThread = true
  loaded : ∀ (i j : Nat) (p q : PluginObject), h.plugins[i]? = some p → p.loaded = true →
    h.plugins[j]? = some q → q.loaded = true → i = j
  registrations : h.registrations ≤ 1
  isBot : ∀ thread slot result, h.applyIsBot thread slot result =
    (result || (h.provider.api.isSome && thread == h.bridgeThread &&
      (slot.bind slotOf).any fun index => (h.manager.slots index).snapshot.managed))
  back : ∀ thread f, (h.load thread f).2 = .back ↔ h.Loads thread f
  failed : ∀ thread f, (h.load thread f).2 ≠ .back → h.Returned (h.load thread f).1

theorem Sound.applyIsBot_eq (hs : h.Sound) (thread : Nat) (slot : Option Int) (result : Bool) :
    h.applyIsBot thread slot result =
      (result || (h.provider.api.isSome && thread == h.bridgeThread &&
        (slot.bind slotOf).any fun index => (h.manager.slots index).snapshot.managed)) := by
  unfold applyIsBot
  cases hc : h.provider.api with
  | none => simp
  | some c =>
    have hattached := hs.attached_of_linked (hs.presented c hc).1
    have hget : h.provider.getSlot = true := by rw [hs.getSlot, hc]; rfl
    have hconnected := hs.isConnected_api hc thread
    cases result with
    | true => simp
    | false =>
      cases slot with
      | none => simp [hget]
      | some slot =>
        simp only [hget, Bool.not_true, Bool.or_self, Bool.false_eq_true, if_false]
        unfold isManagedBot readSlot
        rw [hconnected]
        cases hthread : thread == h.bridgeThread with
        | false => simp
        | true =>
          simp only [Bool.not_true, Bool.false_eq_true, if_false, hs.ready hattached, hattached,
            Bool.and_self]
          cases hslot : slotOf slot <;> simp [hslot]

theorem exclusive_of_sound (hs : h.Sound) : h.Exclusive where
  attached := by
    refine ⟨fun ha => ?_, fun ⟨c, thread, hc⟩ => ?_⟩
    · obtain ⟨c, client, hrow, hl⟩ := hs.linked_of_attached ha
      exact ⟨c, client.threadId, (isConnected_iff h c _).mpr ⟨client, hrow, hl, rfl⟩⟩
    · obtain ⟨client, hrow, hl, -⟩ := (isConnected_iff h c thread).mp hc
      exact hs.attached_of_linked ⟨client, hrow, hl⟩
  refs := hs.refs.trans hs.toBound.attached
  connected c c' thread thread' hc hc' := by
    obtain ⟨client, hrow, hl, rfl⟩ := (isConnected_iff h c thread).mp hc
    obtain ⟨client', hrow', hl', -⟩ := (isConnected_iff h c' thread').mp hc'
    exact ⟨hs.eq_of_linked ⟨client, hrow, hl⟩ ⟨client', hrow', hl'⟩,
      (hs.legal c client hrow hl).1⟩
  api c := by
    refine ⟨fun hc => (hs.presented c hc).2, fun ⟨i, p, hrow, hl, hpc⟩ => ?_⟩
    obtain ⟨c', hpc', hc'⟩ := hs.api_of_loaded hrow hl
    obtain rfl := Option.some.inj (hpc.symm.trans hpc')
    exact hc'
  presented c hc := by simp [hs.isConnected_api hc]
  loaded _ _ _ _ hp hlp hq hlq := hs.eq_of_loaded hp hlp hq hlq
  registrations := by
    rw [hs.registrations]
    split <;> omega
  isBot := hs.applyIsBot_eq
  back thread f := by
    refine ⟨fun hback => ?_, fun hf => by rw [load_of_loads hf]⟩
    by_contra hf
    exact (load_of_not_loads hs hf).2.1 hback
  failed thread f hback := by
    by_cases hf : h.Loads thread f
    · exact absurd (by rw [load_of_loads hf]) hback
    · exact (load_of_not_loads hs hf).2.2

end Host

/-- **One managed plugin presents the bots.** In every run of loads and unloads of the managed
plugin, on whatever threads and left by whatever exceptions, and of the native plugin's work. -/
theorem provider_exclusive {now : UInt64} {bridgeThread : Nat} {es : List HostEvent}
    (ha : Runs.Admits Host.step Host.Promised (Host.start now bridgeThread) es) :
    (Runs.exec Host.step (Host.start now bridgeThread) es).Exclusive :=
  Host.exclusive_of_sound (Runs.exec_invariant (Host.sound_start now bridgeThread)
    (fun _ _ hs he => Host.sound_step hs he) ha)

/-- A second version is refused until the first is unloaded on the manager's thread. -/
theorem provider_exclusive_reload :
    ((Runs.exec Host.step (Host.start 5 1)
      [.nativeInit 5, .load 1 {}, .load 1 {}, .unload 0 2 false, .load 1 {},
        .unload 0 1 false]).load 1 {}).2 = .back := by
  have hexclusive := @provider_exclusive 5 1
    [.nativeInit 5, .load 1 {}, .load 1 {}, .unload 0 2 false, .load 1 {}, .unload 0 1 false]
    ⟨rfl, trivial, trivial, trivial, trivial, trivial, trivial⟩
  exact (hexclusive.back 1 {}).mpr ⟨⟨rfl, rfl, rfl, rfl, rfl⟩, rfl, rfl, rfl⟩

end BotHider.Model
