import BotHider.Lib.Keys
import BotHider.Avatar.Stirs
import BotHider.Model.SlotSpecs
import BotHider.Registry.Runs

/-!
# BotHider — the names of managed slots

A slot gets its name when it is adopted, from the pool's pick or from the engine, and a
new one when the server puts the bot in or a caller renames it. Nothing else gives a name,
and nothing the plugin does keeps two slots from getting the same.

* `grants_step` — what an event does to the names: at most the one it gives.
* `distinct_load`, `distinct_run` — names are distinct when each is unused where it is
  given.
-/

namespace BotHider.Model

open World

/-! ## Names as keys -/

/-- The name a slot is known by: a released or nameless slot has none. -/
def Holding.carried (h : Holding) : Option Bytes :=
  if h.managed = true ∧ h.name ≠ [] then some h.name else none

theorem Holding.carried_eq_some {h : Holding} {name : Bytes} :
    h.carried = some name ↔ h.managed = true ∧ h.name = name ∧ name ≠ [] := by
  unfold Holding.carried
  constructor
  · intro hc
    split at hc
    · rename_i hcond
      cases hc
      exact ⟨hcond.1, rfl, hcond.2⟩
    · cases hc
  · rintro ⟨hm, rfl, hne⟩
    rw [if_pos ⟨hm, hne⟩]

/-- The names of a registry's slots. -/
def Registry.names (r : Registry) : Slot → Option Bytes := fun s => (r.holding s).carried

/-- The names of a world's slots. -/
def World.names (w : World) : Slot → Option Bytes := w.registry.names

theorem names_eq_some {w : World} {s : Slot} {name : Bytes} :
    w.names s = some name ↔
      w.manager.isManaged s = true ∧ w.manager.getSlotName s = name ∧ name ≠ [] :=
  Holding.carried_eq_some

theorem Registry.names_set (r : Registry) (slot : Slot) (h : Holding) :
    (r.set slot h).names = Function.update r.names slot h.carried := by
  funext t
  rcases eq_or_ne t slot with rfl | ht
  · rw [Function.update_self]
    exact congrArg Holding.carried (r.set_holding_self t h)
  · rw [Function.update_of_ne ht]
    exact congrArg Holding.carried (r.set_holding_of_ne ht h)

/-- The change gives no name. -/
abbrev World.KeepsNames (w w' : World) : Prop := Keys.Grants none w.names w'.names

theorem names_of_registry {w w' : World} (h : w'.registry = w.registry) : w'.names = w.names :=
  congrArg Registry.names h

variable {w : World}

theorem KeepsNames.of_registry {w w' : World} (h : w'.registry = w.registry) :
    w.KeepsNames w' := by
  unfold World.KeepsNames
  rw [names_of_registry h]
  exact .refl

/-! ## Changes that give no name -/

/-- Replacing a holding by one with the same name, or none. -/
theorem Registry.grants_none_set (r : Registry) {slot : Slot} {h : Holding}
    (hh : ∀ name, h.carried = some name → (r.holding slot).carried = some name) :
    Keys.Grants none r.names (r.set slot h).names := by
  rw [r.names_set]
  refine Keys.grants_at (s := slot) (fun name hname => Or.inl (hh name ?_)) fun t ht =>
    Function.update_of_ne ht ..
  rwa [Function.update_self] at hname

theorem keepsNames_releaseSlot (w : World) (slot : Slot) : w.KeepsNames (w.releaseSlot slot) := by
  unfold World.KeepsNames World.names
  rw [registry_releaseSlot]
  refine Keys.grants_at (s := slot) (fun name hname => ?_) fun t ht =>
    congrArg Holding.carried (Registry.release_holding_of_ne _ ht)
  unfold Registry.names at hname
  rw [Registry.release_holding_self] at hname
  cases hname

theorem keepsNames_releaseAll (w : World) : w.KeepsNames w.releaseAll := by
  refine Keys.grants_none fun t name ht => ?_
  have hm := (names_eq_some.mp ht).1
  cases hm

theorem keepsNames_modifySnapshot (w : World) (slot : Slot) {f : SlotSnapshot → SlotSnapshot}
    (hm : ∀ s, (f s).managed = s.managed) (hn : ∀ s, (f s).name = s.name) :
    w.KeepsNames (w.withManager (w.manager.modifySnapshot slot f)) := by
  unfold World.KeepsNames World.names
  rw [FakeClientManager.modifySnapshot, registry_setSlot]
  refine Registry.grants_none_set _ fun name hname => ?_
  rw [Holding.carried_eq_some] at hname ⊢
  obtain ⟨hmanaged, htext, hne⟩ := hname
  exact ⟨(hm _).symm.trans hmanaged, (congrArg CharBuf.text (hn _)).symm.trans htext, hne⟩

theorem keepsNames_published {m : FakeClientManager} (h : Published w.manager m) :
    w.KeepsNames (w.withManager m) := by
  induction h with
  | refl => exact .refl
  | step slot applied steamId _ ih =>
    exact ih.before (keepsNames_modifySnapshot (w.withManager _) slot (fun _ => rfl) fun _ => rfl)

theorem keepsNames_setAvatarRequest (w : World) (slot : Slot) (data : Bytes) :
    w.KeepsNames (w.withManager (w.manager.setAvatarRequest slot data)) := by
  refine Keys.grants_none fun t name ht => ?_
  rw [names_eq_some] at ht ⊢
  have hsame : ((w.manager.setAvatarRequest slot data).slots t).snapshot.managed =
      (w.manager.slots t).snapshot.managed ∧
      ((w.manager.setAvatarRequest slot data).slots t).snapshot.name =
        (w.manager.slots t).snapshot.name := by
    unfold FakeClientManager.setAvatarRequest FakeClientManager.publishAvatarState
      FakeClientManager.modifySnapshot
    rcases eq_or_ne t slot with rfl | hts
    · simp
    · simp [hts]
  unfold FakeClientManager.isManaged FakeClientManager.getSlotName at ht ⊢
  rw [withManager, hsame.1, hsame.2] at ht
  exact ht

/-! ## Giving a name -/

/-- What the slot manager keeps of a name: a text cut to the record's length. -/
def keptName (name : Option Bytes) : Bytes := (copyText kNameLen name).text

theorem keptName_congr {name name' : Option Bytes}
    (h : cstr (name.getD []) = cstr (name'.getD [])) : keptName name = keptName name' := by
  unfold keptName
  rw [text_copyText, text_copyText, h]

theorem cstr_cstr (s : Bytes) : cstr (cstr s) = cstr s := cstr_of_notMem (zero_notMem_cstr s)

/-- The name `AdoptClient` would adopt a bot under, if the pool has an entry for it. -/
def World.adoptionName (w : World) (slot : Slot) (name : Option Bytes) : Option Bytes :=
  match collectOccupiedSteamIds w.manager w.engine slot with
  | none => none
  | some occupied =>
    (w.botInfo.pickForBot name occupied).1.map fun pick =>
      w.displayName ((w.botInfo.entries[pick]?).getD {}) name

/-- The name a slot has after `ApplyClientName` with an engine that applies names as given:
an empty one is not given, and the client keeps its own. -/
def World.appliedName (w : World) (slot : Slot) (name : Bytes) : Option Bytes :=
  if cstr name = [] then (w.engine.resolveClientBySlot slot).bind Client.name else some name

theorem appliedName_of_ne_nil {name : Bytes} (h : cstr name ≠ []) (w : World) (slot : Slot) :
    w.appliedName slot name = some name := by
  unfold World.appliedName
  rw [if_neg h]

/-- The name `HookClientPutInServerPost` puts back on. -/
def World.entryName (w : World) (slot : Slot) (name : Option Bytes) : Bytes :=
  if w.manager.getSlotName slot = [] then cstr (name.getD []) else w.manager.getSlotName slot

theorem cstr_entryName (w : World) (slot : Slot) (name : Option Bytes) :
    cstr (w.entryName slot name) = w.entryName slot name := by
  unfold World.entryName
  split
  · exact cstr_cstr _
  · exact cstr_cstr _

theorem grants_adoptEntry (w : World) (slot : Slot) (name : Option Bytes) (now : UInt64)
    (pick : Nat) (entry : BotEntry) :
    Keys.Grants (some (slot, keptName (some (w.displayName entry name)))) w.names
      (w.adoptEntry slot name now pick entry).names := by
  unfold World.names
  rw [registry_adoptEntry]
  refine Keys.grants_at (s := slot) (fun key hkey => Or.inr ?_) fun t ht =>
    congrArg Holding.carried (Function.update_of_ne ht ..)
  unfold Registry.names at hkey
  dsimp only at hkey
  rw [Function.update_self, Holding.carried_eq_some] at hkey
  rw [← hkey.2.1]
  rfl

theorem grants_adoptClient (w : World) (slot : Slot) (name : Option Bytes) (now : UInt64) :
    Keys.Grants ((w.adoptionName slot name).map fun n => (slot, keptName (some n))) w.names
      (w.adoptClient slot name now).1.names := by
  unfold adoptClient World.adoptionName
  cases collectOccupiedSteamIds w.manager w.engine slot with
  | none => exact .refl
  | some occupied =>
    dsimp only
    cases hpick : (w.botInfo.pickForBot name occupied).1 with
    | none => exact .refl
    | some pick =>
      rw [(pickForBot_some hpick).2.1]
      exact grants_adoptEntry { w with botInfo := _ } slot name now pick _

/-- An engine that applies names as given. -/
theorem grants_applyClientName (w : World) (slot : Slot) (name : Bytes) :
    Keys.Grants (some (slot, keptName (w.appliedName slot name))) w.names
      (w.applyClientName {} slot name).1.names := by
  have hset : ∀ (w' : World) text, w'.registry = w.registry →
      keptName text = keptName (w.appliedName slot name) →
      Keys.Grants (some (slot, keptName (w.appliedName slot name))) w.names
        (w'.withManager (w'.manager.setSlotName slot text)).names := by
    intro w' text hw' htext
    unfold World.names
    rw [FakeClientManager.setSlotName, FakeClientManager.modifySnapshot, registry_setSlot,
      Registry.names_set, hw']
    refine Keys.grants_at (s := slot) (fun key hkey => Or.inr ?_) fun t ht =>
      Function.update_of_ne ht ..
    rw [Function.update_self, Holding.carried_eq_some] at hkey
    rw [← htext, ← hkey.2.1]
    rfl
  unfold applyClientName Engine.setEngineName
  by_cases hempty : cstr name = []
  · rw [if_pos (Or.inl hempty)]
    refine hset w _ rfl ?_
    unfold World.appliedName
    rw [if_pos hempty]
    rfl
  · rw [if_neg (by simp [hempty])]
    refine hset (w.withEngine _) _ rfl ?_
    have hgiven : cstr (cstr name) ≠ [] := by rwa [cstr_cstr]
    rw [appliedName_of_ne_nil hempty]
    have hkept : keptName (some (cstr name)) = keptName (some name) :=
      keptName_congr (cstr_cstr name)
    rw [← hkept]
    exact congrArg keptName (if_pos hgiven)

/-! ## The name an event gives -/

namespace World

variable (w : World)

/-- The slot in which `HookOnClientConnectedPost` comes to `AdoptClient`. -/
def adoptingSlot (slot : Int) (name networkId : Option Bytes) (fakePlayer : Bool) :
    Option Slot :=
  if !fakePlayer || isHltvConnection name networkId then none
  else (slotOf slot).filter fun index =>
    !w.manager.isManaged index && (w.engine.resolveClientBySlot index).any fun c => !c.hltv

/-- The slot in which `HookClientPutInServerPost` comes to put the identity back on. -/
def reenteredSlot (slot : Int) : Option Slot :=
  (slotOf slot).filter fun index =>
    w.manager.isManaged index && ((w.engine.resolveClientBySlot index).any (fun c => !c.hltv) &&
      checkSteamIdAvailability w.manager w.engine index (w.manager.getSyntheticSid index) ==
        .available)

/-- The slot `BH_SetName` renames, and the name it then has. -/
def renamed (slot : Int) (incarnation : UInt64) (name : Option Bytes) (length : Int) :
    Option (Slot × Bytes) :=
  match w.target slot incarnation with
  | none => none
  | some index =>
    if length ≤ 0 ∨ (w.engine.resolveClientBySlot index).isNone then none
    else (copyInput kNameLen name length).map fun buffer =>
      (index, keptName (w.appliedName index buffer))

/-- The slot an event gives a name, and the name: by an adoption, by the server entry, which
puts the slot's own name back on, or by a caller. -/
def given : Event → Option (Slot × Bytes)
  | .clientConnected slot name networkId fakePlayer _ =>
    (w.adoptingSlot slot name networkId fakePlayer).bind fun index =>
      (w.adoptionName index name).map fun n => (index, keptName (some n))
  | .clientPutInServer _ slot name =>
    (w.reenteredSlot slot).map fun index => (index, keptName (some (w.entryName index name)))
  | .bhSetName _ slot incarnation name length => w.renamed slot incarnation name length
  | .setPersonaName _ slot normalized =>
    (w.readSlot slot).bind fun s =>
      w.renamed slot s.incarnation (some normalized) normalized.length
  | _ => none

end World

/-- The engine applies names as given, whichever the event gives it. -/
def Event.AppliesNames : Event → Prop
  | .clientPutInServer call _ _ | .releaseHltv call _ | .bhSetName call _ _ _ _
  | .setPersonaName call _ _ => call = {}
  | _ => True

theorem grants_hookOnClientConnectedPost (w : World) (slot : Int) (name networkId : Option Bytes)
    (fakePlayer : Bool) (now : UInt64) :
    Keys.Grants (w.given (.clientConnected slot name networkId fakePlayer now)) w.names
      (w.hookOnClientConnectedPost slot name networkId fakePlayer now).names := by
  change Keys.Grants ((w.adoptingSlot slot name networkId fakePlayer).bind _) _ _
  unfold hookOnClientConnectedPost World.adoptingSlot
  by_cases hbot : (!fakePlayer || isHltvConnection name networkId) = true
  · rw [if_pos hbot, if_pos hbot]
    exact .refl
  · rw [if_neg hbot, if_neg hbot]
    cases slotOf slot with
    | none => exact .refl
    | some index =>
      dsimp only
      split
      · exact .refl
      · rename_i hm
        cases hc : w.engine.resolveClientBySlot index with
        | none => exact .refl
        | some client =>
          dsimp only
          split
          · exact .refl
          · rename_i hhltv
            have hslot : (some index).filter (fun index => !w.manager.isManaged index &&
                (w.engine.resolveClientBySlot index).any fun c => !c.hltv) = some index := by
              simp [hm, hc, hhltv]
            rw [hslot]
            exact grants_adoptClient w index name now

theorem keepsNames_releaseManagedHltvSlot (w : World) (call : SetNameCall) (slot : Slot) :
    w.KeepsNames (w.releaseManagedHltvSlot call slot).1 := by
  unfold releaseManagedHltvSlot
  split
  · exact .refl
  · split
    · exact .refl
    · dsimp only
      split
      · exact keepsNames_releaseSlot (w.writeSteamId slot 0) slot
      · exact keepsNames_releaseSlot (w.withEngine _) slot

theorem grants_reapplyIdentity (w : World) (slot : Slot) (name : Option Bytes) :
    Keys.Grants (some (slot, keptName (some (w.entryName slot name)))) w.names
      (w.reapplyIdentity {} slot name).names := by
  have hname : ∀ w' : World, w'.registry = w.registry →
      Keys.Grants (some (slot, keptName (some (w.entryName slot name)))) w.names
        (if w.entryName slot name = [] then w'
          else (w'.applyClientName {} slot (w.entryName slot name)).1).names := by
    intro w' hw'
    split
    · exact (KeepsNames.of_registry hw').of_none
    · rename_i hne
      have hgrants := grants_applyClientName w' slot (w.entryName slot name)
      rw [appliedName_of_ne_nil (by rwa [cstr_entryName])] at hgrants
      exact (KeepsNames.of_registry hw').before hgrants
  refine hname _ ?_
  split <;> rfl

theorem grants_hookClientPutInServerPost (w : World) (slot : Int) (name : Option Bytes) :
    Keys.Grants (w.given (.clientPutInServer {} slot name)) w.names
      (w.hookClientPutInServerPost {} slot name).names := by
  change Keys.Grants ((w.reenteredSlot slot).map _) _ _
  unfold hookClientPutInServerPost World.reenteredSlot
  cases slotOf slot with
  | none => exact .refl
  | some index =>
    dsimp only
    split
    · exact .refl
    · rename_i hm
      cases hc : w.engine.resolveClientBySlot index with
      | none => exact .refl
      | some client =>
        dsimp only
        split
        · exact (keepsNames_releaseManagedHltvSlot w {} index).of_none
        · rename_i hhltv
          split
          · exact (keepsNames_releaseSlot (w.restoreSlotClient index) index).of_none
          · rename_i havail
            have hbot : client.hltv = false := by
              unfold releaseManagedHltvSlot at hhltv
              rw [hc] at hhltv
              cases hh : client.hltv with
              | false => rfl
              | true => simp [hh, hm] at hhltv
            have hslot : (some index).filter (fun index => w.manager.isManaged index &&
                ((w.engine.resolveClientBySlot index).any (fun c => !c.hltv) &&
                  checkSteamIdAvailability w.manager w.engine index
                    (w.manager.getSyntheticSid index) == .available)) = some index := by
              simp_all
            rw [hslot]
            exact grants_reapplyIdentity w index name

theorem grants_bhSetName (w : World) (slot : Int) (incarnation : UInt64) (name : Option Bytes)
    (length : Int) :
    Keys.Grants (w.renamed slot incarnation name length) w.names
      (w.bhSetName {} slot incarnation name length).1.names := by
  unfold bhSetName World.renamed
  cases w.target slot incarnation with
  | none => exact .refl
  | some index =>
    dsimp only
    by_cases hlen : length ≤ 0
    · rw [if_pos hlen]
      exact .refl
    · rw [if_neg hlen]
      cases copyInput kNameLen name length with
      | none => exact .refl
      | some buffer =>
        unfold applyPersonaNameCommand
        cases hc : w.engine.resolveClientBySlot index with
        | none => exact .refl
        | some client =>
          rw [if_neg (by simp [hlen])]
          exact grants_applyClientName w index buffer

theorem names_of_native {w w' : World} (h : w'.native = w.native) : w'.names = w.names :=
  names_of_registry (registry_of_native h)

theorem KeepsNames.of_native {w w' w'' : World} (h : w.KeepsNames w')
    (hn : w''.native = w'.native) : w.KeepsNames w'' := by
  unfold World.KeepsNames
  rwa [names_of_native hn]

theorem grants_setPersonaName (w : World) (slot : Int) (normalized : Bytes) :
    Keys.Grants (w.given (.setPersonaName {} slot normalized)) w.names
      (w.setPersonaName {} slot normalized).1.names := by
  change Keys.Grants ((w.readSlot slot).bind _) _ _
  unfold setPersonaName
  split
  · exact .refl
  · cases w.readSlot slot with
    | none => exact .refl
    | some s =>
      have hset := grants_bhSetName w slot s.incarnation (some normalized) normalized.length
      dsimp only [Option.bind_some]
      split
      · exact hset
      · dsimp only
        rw [names_of_native (native_queueVisibleWrite ..)]
        exact hset

/-! ## Events that give no name -/

theorem keepsNames_bhSetSteamId (w : World) (slot : Int) (incarnation steamId : UInt64)
    (alloc : Bool) : w.KeepsNames (w.bhSetSteamId slot incarnation steamId alloc).1 := by
  rcases bhSetSteamId_cases w slot incarnation steamId alloc with ⟨index, -, h⟩ | h
  · rw [h]
    have hset : ∀ w' : World, w'.registry = w.registry →
        w.KeepsNames (w'.withManager (w'.manager.setSyntheticSid index steamId)) := fun w' hw' =>
      (KeepsNames.of_registry hw').before
        (keepsNames_modifySnapshot w' index (fun _ => rfl) fun _ => rfl)
    unfold applySteamIdCommand
    split
    · exact .refl
    · split
      · exact .refl
      · refine hset _ ?_
        split <;> rfl
  · rw [h]
    exact .refl

theorem keepsNames_setBotSteamId (w : World) (slot : Int) (steamId64 : UInt64) (alloc : Bool) :
    w.KeepsNames (w.setBotSteamId slot steamId64 alloc).1 := by
  rcases setBotSteamId_cases w slot steamId64 alloc with ⟨s, -, hn⟩ | ⟨-, hw⟩
  · exact KeepsNames.of_native (keepsNames_bhSetSteamId w slot s.incarnation steamId64 alloc) hn
  · rw [hw]
    exact .refl

theorem keepsNames_hookClientDisconnectPre (w : World) (slot : Int) (targeted : Bool) :
    w.KeepsNames (w.hookClientDisconnectPre slot targeted) := by
  unfold hookClientDisconnectPre
  split
  · exact .refl
  · rename_i index _
    split
    · exact .refl
    · dsimp only
      refine (KeepsNames.of_registry ?_).before (keepsNames_releaseSlot _ index)
      split
      · rfl
      · split
        · exact registry_queueControllerRemovalForClient _ _ _
        · rfl

theorem keepsNames_bhSetAvatar (w : World) (slot : Int) (incarnation : UInt64)
    (data : Option Bytes) (length : Int) (alloc : Bool) :
    w.KeepsNames (w.bhSetAvatar slot incarnation data length alloc).1 := by
  rcases bhSetAvatar_cases w slot incarnation data length alloc with ⟨index, -, hw⟩ | hw
  · rw [hw]
    exact keepsNames_setAvatarRequest w index _
  · rw [hw]
    exact .refl

theorem keepsNames_trySetBotAvatar (w : World) (slot : Int) (pngPath : AvatarPath) :
    w.KeepsNames (w.trySetBotAvatar slot pngPath).1 := by
  rcases native_trySetBotAvatar w slot pngPath with ⟨index, incarnation, h⟩ | h
  · exact KeepsNames.of_native (keepsNames_bhSetAvatar w index.val incarnation none 0 true) h
  · exact KeepsNames.of_native .refl h

theorem keepsNames_finishAvatarRead (w : World) (alloc : Bool) (slot : Slot) :
    w.KeepsNames (w.finishAvatarRead alloc slot) := by
  rcases native_finishAvatarRead w alloc slot with ⟨incarnation, bytes, h⟩ | h
  · exact KeepsNames.of_native
      (keepsNames_bhSetAvatar w slot.val incarnation (some bytes) bytes.length alloc) h
  · exact KeepsNames.of_native .refl h

theorem keepsNames_processOverrides (w : World) (env : PassEnv) :
    w.KeepsNames (w.processOverrides env) :=
  keepsNames_published (published_processOverrides w.avatar w.manager env.found env.calls env.now)

theorem keepsNames_resetRuntime (w : World) : w.KeepsNames w.resetRuntime :=
  keepsNames_published (published_withdrawAll w.manager)

/-- **Step lemma.** Every name carried after an event was carried before it by the same slot,
or is the one the event gives. -/
theorem grants_step (hl : w.plugin.loaded = true) {e : Event} (he : e.AppliesNames) :
    Keys.Grants (w.given e) w.names (w.step e).names := by
  cases hs : e.leases with
  | false => exact (KeepsNames.of_registry (registry_step hl hs)).of_none
  | true =>
    cases e with
    | clientConnected => exact grants_hookOnClientConnectedPost w _ _ _ _ _
    | clientPutInServer call slot name =>
      obtain rfl : call = {} := he
      exact grants_hookClientPutInServerPost w slot name
    | clientDisconnect slot targeted => exact keepsNames_hookClientDisconnectPre w slot targeted
    | releaseHltv call slot => exact keepsNames_releaseManagedHltvSlot w call slot
    | bhSetSteamId => exact keepsNames_bhSetSteamId w _ _ _ _
    | bhSetName call slot incarnation name length =>
      obtain rfl : call = {} := he
      exact grants_bhSetName w slot incarnation name length
    | setBotSteamId => exact keepsNames_setBotSteamId w _ _ _
    | setPersonaName call slot normalized =>
      obtain rfl : call = {} := he
      exact grants_setPersonaName w slot normalized
    | bhSetAvatar => exact keepsNames_bhSetAvatar w _ _ _ _ _
    | trySetBotAvatar slot pngPath => exact keepsNames_trySetBotAvatar w slot pngPath
    | processOverrides env => exact keepsNames_processOverrides w env
    | startChangeLevel env =>
      have hreleased : w.KeepsNames
          (w.withEngine (restoreManagedClients w.manager w.engine)).releaseAll :=
        keepsNames_releaseAll (w.withEngine _)
      exact hreleased.before (keepsNames_processOverrides _ env)
    | levelInit gate =>
      exact (keepsNames_resetRuntime w).before
        (KeepsNames.of_registry (registry_onLevelInit w gate))
    | levelShutdown env =>
      exact (keepsNames_releaseAll w).before
        ((keepsNames_processOverrides _ env).before (keepsNames_resetRuntime _))
    | finishAvatarReads alloc =>
      exact Sweep.foldl_rel (R := World.KeepsNames) (fun _ => .refl) (fun _ _ _ => .before)
        (fun w slot => keepsNames_finishAvatarRead w (alloc slot) slot) allSlots w
    | _ => cases hs

/-! ## Loading -/

/-- The name a round of `AdoptExistingBots` gives its slot: the one it adopts the bot under,
or, for want of one, the client's own. -/
def World.existingName (w : World) (slot : Slot) : Option Bytes :=
  match w.engine.resolveClientBySlot slot with
  | none => none
  | some client =>
    if !client.isFakePlayerSet || client.hltv || isHltvConnection client.name none then none
    else (w.adoptionName slot client.name).map fun n =>
      if keptName (some n) = [] then keptName client.name else keptName (some n)

theorem cstr_keptName (name : Option Bytes) : cstr (keptName name) = keptName name := cstr_cstr _

/-- A name that was kept is kept as it is. -/
theorem keptName_keptName (name : Option Bytes) :
    keptName (some (keptName name)) = keptName name := by
  have hz : (0 : UInt8) ∉ (cstr (name.getD [])).take (kNameLen - 1) :=
    fun h => zero_notMem_cstr _ (List.mem_of_mem_take h)
  unfold keptName
  rw [text_copyText, text_copyText, Option.getD_some, cstr_of_notMem hz, List.take_take, min_self]

/-- What adopting a bot does to its name. -/
theorem adoptClient_named (w : World) (slot : Slot) (name : Option Bytes) (now : UInt64) :
    w.adoptClient slot name now = (w, false) ∨
    ∃ n adopted, w.adoptionName slot name = some n ∧
      w.adoptClient slot name now = (adopted, true) ∧
      adopted.manager.getSlotName slot = keptName (some n) ∧
      (adopted.engine.resolveClientBySlot slot).bind Client.name =
        (w.engine.resolveClientBySlot slot).bind Client.name := by
  rcases adoptClient_cases w slot name now with hnone | ⟨occupied, pick, entry, hocc, hpick, hentry,
    -, hsome⟩
  · exact Or.inl hnone
  · refine Or.inr ⟨w.displayName entry name, _, ?_, hsome, ?_, ?_⟩
    · unfold World.adoptionName
      rw [hocc]
      dsimp only
      rw [hpick, Option.map_some, hentry, Option.getD_some]
    · generalize hv : ({ w with botInfo := (w.botInfo.pickForBot name occupied).2 } : World) = v
      have hreg := congrArg (fun r : Registry => (r.holding slot).name)
        (registry_adoptEntry v slot name now pick entry)
      simp only [Function.update_self] at hreg
      subst hv
      exact hreg
    · rw [client_adoptEntry]
      change ((w.engine.resolveClientBySlot slot).map _).bind _ = _
      cases w.engine.resolveClientBySlot slot with
      | none => rfl
      | some c =>
        rw [Option.map_some, Option.bind_some, Option.bind_some]
        split <;> rfl

theorem grants_adoptExistingBot (w : World) (now : UInt64) (slot : Slot) :
    Keys.Grants ((w.existingName slot).map fun n => (slot, n)) w.names
      (w.adoptExistingBot {} now slot).names := by
  unfold adoptExistingBot World.existingName
  cases hc : w.engine.resolveClientBySlot slot with
  | none => exact .refl
  | some client =>
    dsimp only
    by_cases hbot : (!client.isFakePlayerSet || client.hltv) = true
    · rw [if_pos hbot]
      exact .refl
    · by_cases hhltv : isHltvConnection client.name none = true
      · rw [if_neg hbot, if_pos hhltv]
        exact .refl
      · rw [if_neg hbot, if_neg hhltv, if_neg (by simp_all)]
        rcases adoptClient_named w slot client.name now with hnone |
          ⟨n, adopted, hname, hsome, hslot, hclient⟩
        · rw [hnone]
          exact .refl
        · have hadopt := grants_adoptClient w slot client.name now
          have happly := grants_applyClientName adopted slot (adopted.manager.getSlotName slot)
          rw [hname, hsome] at hadopt
          rw [hname, hsome, if_pos rfl, Option.map_some, Option.map_some]
          rw [hc] at hclient
          intro t key ht
          have hne : key ≠ [] := (names_eq_some.mp ht).2.2
          rcases happly t key ht with ht | hgiven
          · rcases hadopt t key ht with ht | hgiven
            · exact Or.inl ht
            · -- the name of the adoption, which was not put on again
              cases hgiven
              rw [if_neg hne]
              exact Or.inr rfl
          · refine Or.inr ?_
            rw [← hgiven, hslot]
            by_cases hempty : keptName (some n) = []
            · rw [if_pos hempty, World.appliedName, hempty, if_pos (show cstr [] = [] from rfl), hclient]
              rfl
            · have htext : cstr (keptName (some n)) ≠ [] := by rwa [cstr_keptName]
              rw [if_neg hempty, appliedName_of_ne_nil htext, keptName_keptName]

/-- In a late load each existing bot gets a name no managed slot carries. -/
def LoadEnv.NamesApart (env : LoadEnv) : Prop :=
  env.late = true → Runs.Admits (World.adoptExisting env)
    (fun w slot => ∀ name, w.existingName slot = some name → Keys.Unused w.names slot name)
    (World.loading env) allSlots

/-- The engine applies the names of a late load as given. -/
def LoadEnv.AppliesNames (env : LoadEnv) : Prop := env.late = true → ∀ slot, env.calls slot = {}

theorem distinct_loading (env : LoadEnv) : Keys.Distinct (World.loading env).names := by
  intro s t key hs _
  have hm := (names_eq_some.mp hs).1
  rw [isManaged_loading] at hm
  cases hm

theorem distinct_load {env : LoadEnv} (happlies : env.AppliesNames) (hapart : env.NamesApart) :
    Keys.Distinct (World.load env).names := by
  have hswept : ∀ hlate : env.late = true,
      Keys.Distinct (Runs.exec (World.adoptExisting env) (World.loading env) allSlots).names := by
    intro hlate
    refine Keys.distinct_exec World.names (fun w slot => (w.existingName slot).map fun n => (slot, n))
      (I := fun _ => True) trivial (distinct_loading env) (fun _ _ _ _ => trivial) ?_ ?_
      (hapart hlate)
    · intro w slot _ _
      rw [World.adoptExisting, happlies hlate slot]
      exact grants_adoptExistingBot w _ slot
    · intro w slot hok i key hgiven
      obtain ⟨name, hname, heq⟩ := Option.map_eq_some_iff.mp hgiven
      obtain ⟨rfl, rfl⟩ := Prod.mk.inj heq
      exact hok name hname
  have hloaded : (World.load env).names =
      (if env.late then allSlots.foldl (World.adoptExisting env) (World.loading env)
        else World.loading env).names := rfl
  rw [hloaded]
  cases hlate : env.late with
  | true => exact hswept hlate
  | false => exact distinct_loading env

/-! ## Runs -/

/-- The name an event gives a slot is carried by no other managed slot where it is given. -/
def World.NamesApart (w : World) (e : Event) : Prop :=
  ∀ slot name, w.given e = some (slot, name) → Keys.Unused w.names slot name

/-- **Run lemma.** When every name is unused where it is given, managed slots have different
names after every run. -/
theorem distinct_run {env : LoadEnv} {es : List Event} (happlies : env.AppliesNames)
    (hapart : env.NamesApart)
    (ha : Runs.Admits World.step (fun w e => e.AppliesNames ∧ w.NamesApart e) (World.load env) es) :
    Keys.Distinct (World.run env es).names := by
  refine Keys.distinct_exec World.names World.given (I := fun w : World => w.plugin.loaded = true)
    rfl (distinct_load happlies hapart) ?_ ?_ ?_ ha
  · exact fun w e hl _ => loaded_step hl e
  · exact fun w e hl hok => grants_step hl hok.1
  · exact fun w e hok => hok.2

end BotHider.Model
