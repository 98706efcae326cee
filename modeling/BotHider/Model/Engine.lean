import BotHider.Lib.Mask
import BotHider.Model.Bridge
import Mathlib.Data.Nat.Basic

/-!
# BotHider — the engine's memory

What `serversideclient_ref.h` and `entity_access.cpp` read and write: the client
list of the current game server, the entity list, and the player objects the
managed plugin sees. Each list element holds its own client object; `addr` is
the pointer the plugin compares.

Engine calls that only notify the network (`MarkEntityFieldChanged`,
`UserInfoChanged`) leave this memory alone and are not written out.

`Engine.Agree f` frames a change: what `f` reads of each client is as before, and
so is every entity but for its flag word. `Engine.SameButFlags` is the
frame of the disguise operations.
-/

namespace BotHider.Model

/-! ## Clients -/

/-- The fields of a `CServerSideClient` the plugin reads or writes. -/
structure Client where
  addr : Nat
  name : Option Bytes
  entityIndex : Int
  connectionFlags : BitVec 8
  fakePlayer : BitVec 8
  userId : UInt16
  steamId : UInt64
  steamIdMirror : UInt64
  hltv : Bool
  deriving DecidableEq

namespace Client

/-- `ssc::ClearFakePlayer`. -/
def clearFakePlayer (c : Client) : Client :=
  { c with connectionFlags := (c.connectionFlags &&& ~~~0x08#8) ||| 0x01#8, fakePlayer := 0 }

/-- `ssc::SetFakePlayer`. -/
def setFakePlayer (c : Client) : Client :=
  { c with connectionFlags := (c.connectionFlags &&& ~~~0x01#8) ||| 0x08#8, fakePlayer := 1 }

/-- `ssc::WriteSteamId`: both engine fields. -/
def writeSteamId (steamId : UInt64) (c : Client) : Client :=
  { c with steamId := steamId, steamIdMirror := steamId }

/-- `ssc::IsFakePlayerSet`. -/
def isFakePlayerSet (c : Client) : Bool := c.fakePlayer == 1

/-- The client without its fake-player bits. -/
def identity (c : Client) : Client := { c with connectionFlags := 0, fakePlayer := 0 }

@[simp] theorem identity_clearFakePlayer (c : Client) :
    c.clearFakePlayer.identity = c.identity := rfl

@[simp] theorem identity_setFakePlayer (c : Client) :
    c.setFakePlayer.identity = c.identity := rfl

theorem entityIndex_clearFakePlayer (c : Client) :
    c.clearFakePlayer.entityIndex = c.entityIndex := rfl

theorem entityIndex_setFakePlayer (c : Client) :
    c.setFakePlayer.entityIndex = c.entityIndex := rfl

theorem entityIndex_writeSteamId (sid : UInt64) (c : Client) :
    (c.writeSteamId sid).entityIndex = c.entityIndex := rfl

/-- The client's flags are a human's: byte `0`, bit `0x01` set, bit `0x08` clear. -/
def LooksHuman (c : Client) : Prop :=
  c.fakePlayer = 0 ∧ c.connectionFlags.getLsbD 0 = true ∧ c.connectionFlags.getLsbD 3 = false

/-- The client's flags are a bot's: byte `1`, bit `0x08` set, bit `0x01` clear. -/
def LooksBot (c : Client) : Prop :=
  c.fakePlayer = 1 ∧ c.connectionFlags.getLsbD 3 = true ∧ c.connectionFlags.getLsbD 0 = false

instance (c : Client) : Decidable c.LooksHuman := by unfold LooksHuman; infer_instance

instance (c : Client) : Decidable c.LooksBot := by unfold LooksBot; infer_instance

theorem looksHuman_clearFakePlayer (c : Client) : c.clearFakePlayer.LooksHuman := by
  refine ⟨rfl, ?_, ?_⟩ <;> simp [clearFakePlayer]

theorem looksBot_setFakePlayer (c : Client) : c.setFakePlayer.LooksBot := by
  refine ⟨rfl, ?_, ?_⟩ <;> simp [setFakePlayer]

end Client

/-! ## Entities -/

/-- `offsets::kEntityFlagFakeClient`, bit 8. -/
def kEntityFlagFakeClient : BitVec 32 := 0x100#32

/-- The fields of an entity the plugin reads or writes; `addr` is the instance
pointer of its identity. -/
structure Entity where
  addr : Nat
  handle : UInt32
  className : String
  beingDeleted : Bool
  flags : BitVec 32
  deriving DecidableEq

namespace Entity

/-- The flag write of `SetControllerFakeClientFlag`. -/
def withFakeClient (fakeClient : Bool) (k : Entity) : Entity :=
  { k with
    flags := if fakeClient then k.flags ||| kEntityFlagFakeClient
      else k.flags &&& ~~~kEntityFlagFakeClient }

/-- `FL_FAKECLIENT` is set. -/
def fakeClient (k : Entity) : Bool := k.flags.getLsbD 8

/-- The entity without its flag word. -/
def identity (k : Entity) : Entity := { k with flags := 0 }

@[simp] theorem fakeClient_withFakeClient (b : Bool) (k : Entity) :
    (k.withFakeClient b).fakeClient = b := by
  cases b <;> simp [withFakeClient, fakeClient, kEntityFlagFakeClient]

@[simp] theorem identity_withFakeClient (b : Bool) (k : Entity) :
    (k.withFakeClient b).identity = k.identity := rfl

/-- The entity is a live player controller. -/
def LiveController (k : Entity) : Prop :=
  k.className = "cs_player_controller" ∧ k.beingDeleted = false

instance (k : Entity) : Decidable k.LiveController := by unfold LiveController; infer_instance

end Entity

/-- The presentation fields of a valid `CCSPlayerController`, as the managed plugin
sees it; `ranks` is `none` without inventory services. -/
structure Player where
  playerName : Bytes
  steamId : UInt64
  crosshairCodes : Bytes
  ranks : Option (List UInt32)

/-! ## The engine -/

/-- The current game server and its client list. -/
structure GameServer where
  addr : Nat
  clients : List (Option Client)

/-- The engine state the plugin touches. `gameServer` is `none` when the service or
its server is missing, `entitySystem` and `utilRemove` say whether the signature
scan found them, and `players` is `Utilities.GetPlayerFromSlot` for valid players. -/
structure Engine where
  gameServer : Option GameServer
  entitySystem : Bool
  utilRemove : Bool
  entities : Nat → Option Entity
  players : Slot → Option Player

namespace Engine

/-- No server and no entities. -/
def empty : Engine where
  gameServer := none
  entitySystem := false
  utilRemove := false
  entities := fun _ => none
  players := fun _ => none

variable (e : Engine)

/-- The client list, unless it is missing or its count is out of bounds. -/
def clientList : Option (List (Option Client)) :=
  match e.gameServer with
  | none => none
  | some server => if server.clients.length > 256 then none else some server.clients

/-- `ResolveClientBySlot`. -/
def resolveClientBySlot (slot : Nat) : Option Client :=
  match e.clientList with
  | none => none
  | some clients => clients[slot]?.join

/-- `ResolveEntityInstance`. -/
def resolveEntityInstance (entityIndex : Int) : Option Entity :=
  if !e.entitySystem || entityIndex ≤ 0 || entityIndex ≥ 0x8000 then none
  else e.entities entityIndex.toNat

/-- The resolved entity when it is a player controller. -/
def resolveController (c : Client) : Option Entity :=
  (e.resolveEntityInstance c.entityIndex).filter fun k => k.className == "cs_player_controller"

/-- The controller of the client in a slot. -/
def controllerAt (slot : Nat) : Option Entity :=
  (e.resolveClientBySlot slot).bind e.resolveController

/-- A write through the client pointer a slot resolves to. -/
def modifyClient (slot : Nat) (f : Client → Client) : Engine :=
  { e with
    gameServer := e.gameServer.map fun server =>
      { server with clients := server.clients.modify slot (Option.map f) } }

/-- A write through the instance pointer of an entity. -/
def modifyEntity (entityIndex : Int) (f : Entity → Entity) : Engine :=
  { e with
    entities := Function.update e.entities entityIndex.toNat
      ((e.entities entityIndex.toNat).map f) }

/-- `SetControllerFakeClientFlag`. -/
def setControllerFakeClientFlag (slot : Nat) (fakeClient : Bool) : Engine :=
  match e.resolveClientBySlot slot with
  | none => e
  | some c =>
    match e.resolveController c with
    | none => e
    | some _ => e.modifyEntity c.entityIndex (Entity.withFakeClient fakeClient)

/-- Without an entity system no client has a controller. -/
theorem controllerAt_of_entitySystem (h : e.entitySystem = false) (slot : Nat) :
    e.controllerAt slot = none := by
  unfold controllerAt resolveController resolveEntityInstance
  rw [h]
  cases e.resolveClientBySlot slot with
  | none => rfl
  | some c => rfl

/-! ## What the writes do -/

theorem clientList_modifyClient (slot : Nat) (f : Client → Client) :
    (e.modifyClient slot f).clientList =
      e.clientList.map fun clients => clients.modify slot (Option.map f) := by
  unfold clientList modifyClient
  cases e.gameServer with
  | none => rfl
  | some server =>
    simp only [Option.map_some, List.length_modify]
    split <;> rfl

theorem resolveClientBySlot_modifyClient_self (slot : Nat) (f : Client → Client) :
    (e.modifyClient slot f).resolveClientBySlot slot = (e.resolveClientBySlot slot).map f := by
  unfold resolveClientBySlot
  rw [clientList_modifyClient]
  cases e.clientList with
  | none => rfl
  | some clients =>
    simp only [Option.map_some, List.getElem?_modify, if_true]
    cases clients[slot]? with
    | none => rfl
    | some c => cases c <;> rfl

theorem resolveClientBySlot_modifyClient_of_ne {slot t : Nat} (h : t ≠ slot)
    (f : Client → Client) :
    (e.modifyClient slot f).resolveClientBySlot t = e.resolveClientBySlot t := by
  unfold resolveClientBySlot
  rw [clientList_modifyClient]
  cases e.clientList with
  | none => rfl
  | some clients =>
    simp only [Option.map_some, List.getElem?_modify, if_neg (Ne.symm h)]
    cases clients[t]? <;> rfl

@[simp] theorem resolveEntityInstance_modifyClient (slot : Nat) (f : Client → Client) (i : Int) :
    (e.modifyClient slot f).resolveEntityInstance i = e.resolveEntityInstance i := rfl

@[simp] theorem resolveController_modifyClient (slot : Nat) (f : Client → Client) (c : Client) :
    (e.modifyClient slot f).resolveController c = e.resolveController c := rfl

/-- Writing a client moves no controller, as long as the write keeps its entity index. -/
theorem controllerAt_modifyClient (slot t : Nat) {f : Client → Client}
    (hf : ∀ c, (f c).entityIndex = c.entityIndex) :
    (e.modifyClient slot f).controllerAt t = e.controllerAt t := by
  unfold controllerAt
  rcases eq_or_ne t slot with rfl | h
  · rw [resolveClientBySlot_modifyClient_self]
    cases e.resolveClientBySlot t with
    | none => rfl
    | some c =>
      simp only [Option.map_some, Option.bind_some, resolveController_modifyClient]
      unfold resolveController
      rw [hf]
  · rw [resolveClientBySlot_modifyClient_of_ne e h]
    rfl

@[simp] theorem resolveClientBySlot_modifyEntity (i : Int) (f : Entity → Entity) (t : Nat) :
    (e.modifyEntity i f).resolveClientBySlot t = e.resolveClientBySlot t := rfl

theorem resolveEntityInstance_modifyEntity_self (i : Int) (f : Entity → Entity) :
    (e.modifyEntity i f).resolveEntityInstance i = (e.resolveEntityInstance i).map f := by
  unfold resolveEntityInstance modifyEntity
  dsimp only
  split
  · rfl
  · rw [Function.update_self]

theorem resolveEntityInstance_modifyEntity_of_ne {i j : Int} (h : j ≠ i) (hi : 0 < i)
    (f : Entity → Entity) :
    (e.modifyEntity i f).resolveEntityInstance j = e.resolveEntityInstance j := by
  unfold resolveEntityInstance modifyEntity
  dsimp only
  split
  · rfl
  · rename_i hj
    simp only [Bool.or_eq_true, decide_eq_true_eq, not_or] at hj
    rw [Function.update_of_ne (by omega)]

/-- An index that resolves is positive. -/
theorem pos_of_resolveEntityInstance {i : Int} {k : Entity}
    (h : e.resolveEntityInstance i = some k) : 0 < i := by
  unfold resolveEntityInstance at h
  split at h
  · cases h
  · rename_i hc
    simp only [Bool.or_eq_true, decide_eq_true_eq, not_or] at hc
    omega

theorem resolveController_eq_some {c : Client} {k : Entity} :
    e.resolveController c = some k ↔
      e.resolveEntityInstance c.entityIndex = some k ∧ k.className = "cs_player_controller" := by
  unfold resolveController
  rw [Option.filter_eq_some_iff]
  simp

@[simp] theorem resolveClientBySlot_setControllerFakeClientFlag (slot t : Nat) (b : Bool) :
    (e.setControllerFakeClientFlag slot b).resolveClientBySlot t = e.resolveClientBySlot t := by
  unfold setControllerFakeClientFlag
  split
  · rfl
  · split <;> rfl

/-- The flag write sets exactly the slot's own controller. -/
theorem controllerAt_setControllerFakeClientFlag_self (slot : Nat) (b : Bool) :
    (e.setControllerFakeClientFlag slot b).controllerAt slot =
      (e.controllerAt slot).map (Entity.withFakeClient b) := by
  unfold controllerAt
  rw [resolveClientBySlot_setControllerFakeClientFlag]
  unfold setControllerFakeClientFlag
  cases hc : e.resolveClientBySlot slot with
  | none => rfl
  | some c =>
    simp only [Option.bind_some]
    cases hk : e.resolveController c with
    | none => simpa using hk
    | some k =>
      obtain ⟨hr, hcls⟩ := (e.resolveController_eq_some).mp hk
      dsimp only
      rw [Option.map_some, resolveController_eq_some, resolveEntityInstance_modifyEntity_self, hr]
      exact ⟨rfl, hcls⟩

/-- A client that has a controller shares it with no other client. -/
def SeparateControllers : Prop :=
  ∀ s t c d, s ≠ t → e.resolveClientBySlot s = some c → e.resolveClientBySlot t = some d →
    (e.resolveController c).isSome = true → d.entityIndex ≠ c.entityIndex

/-- A slot that resolves is an index of the client list. -/
theorem lt_of_resolveClientBySlot {i : Nat} {c : Client} (hc : e.resolveClientBySlot i = some c) :
    i < (e.clientList.getD []).length := by
  unfold resolveClientBySlot at hc
  cases hl : e.clientList with
  | none =>
    rw [hl] at hc
    cases hc
  | some clients =>
    rw [hl] at hc
    by_contra hge
    dsimp only [Option.getD] at hc hge
    rw [List.getElem?_eq_none (by omega)] at hc
    cases hc

theorem separateControllers_iff : e.SeparateControllers ↔
    ∀ s < (e.clientList.getD []).length, ∀ t < (e.clientList.getD []).length, s ≠ t →
      ∀ c ∈ e.resolveClientBySlot s, ∀ d ∈ e.resolveClientBySlot t,
        (e.resolveController c).isSome = true → d.entityIndex ≠ c.entityIndex :=
  ⟨fun h s _ t _ hst c hc d hd => h s t c d hst hc hd, fun h s t c d hst hc hd =>
    h s (e.lt_of_resolveClientBySlot hc) t (e.lt_of_resolveClientBySlot hd) hst c hc d hd⟩

instance : Decidable e.SeparateControllers := decidable_of_iff _ e.separateControllers_iff.symm

/-- With one controller per client, the flag write leaves every other slot's alone. -/
theorem controllerAt_setControllerFakeClientFlag_of_ne {slot t : Nat} (h : t ≠ slot)
    (hsep : e.SeparateControllers) (b : Bool) :
    (e.setControllerFakeClientFlag slot b).controllerAt t = e.controllerAt t := by
  unfold controllerAt
  rw [resolveClientBySlot_setControllerFakeClientFlag]
  cases hd : e.resolveClientBySlot t with
  | none => rfl
  | some d =>
    simp only [Option.bind_some]
    unfold setControllerFakeClientFlag
    cases hc : e.resolveClientBySlot slot with
    | none => rfl
    | some c =>
      dsimp only
      cases hk : e.resolveController c with
      | none => rfl
      | some k =>
        have hpos := e.pos_of_resolveEntityInstance ((e.resolveController_eq_some).mp hk).1
        have hne := hsep slot t c d h.symm hc hd (by rw [hk]; rfl)
        dsimp only
        unfold resolveController
        rw [resolveEntityInstance_modifyEntity_of_ne e hne hpos]

/-- An entity write reaches a slot's controller exactly when it is that entity. -/
theorem controllerAt_modifyEntity {t : Nat} {c : Client} (hc : e.resolveClientBySlot t = some c)
    {i : Int} (hi : 0 < i) {f : Entity → Entity} (hf : ∀ k, (f k).className = k.className) :
    (e.modifyEntity i f).controllerAt t =
      if c.entityIndex = i then (e.controllerAt t).map f else e.controllerAt t := by
  unfold controllerAt
  rw [resolveClientBySlot_modifyEntity, hc]
  simp only [Option.bind_some]
  unfold resolveController
  split
  · rename_i heq
    rw [heq, resolveEntityInstance_modifyEntity_self]
    cases e.resolveEntityInstance i with
    | none => rfl
    | some k =>
      by_cases hk : k.className = "cs_player_controller" <;> simp [Option.filter, hf, hk]
  · rename_i hne
    rw [resolveEntityInstance_modifyEntity_of_ne e hne hi]

/-- Setting `FL_FAKECLIENT` on one slot's controller clears it on none. -/
theorem fakeClient_setControllerFakeClientFlag_true (slot t : Nat) {k' : Entity}
    (hk' : (e.setControllerFakeClientFlag slot true).controllerAt t = some k') :
    ∃ k, e.controllerAt t = some k ∧ k'.identity = k.identity ∧
      (k.fakeClient = true → k'.fakeClient = true) := by
  unfold setControllerFakeClientFlag at hk'
  split at hk'
  · exact ⟨k', hk', rfl, id⟩
  · rename_i c hc
    split at hk'
    · exact ⟨k', hk', rfl, id⟩
    · rename_i k₀ hk₀
      have hpos := e.pos_of_resolveEntityInstance ((e.resolveController_eq_some).mp hk₀).1
      cases hd : e.resolveClientBySlot t with
      | none =>
        unfold controllerAt at hk'
        rw [resolveClientBySlot_modifyEntity, hd] at hk'
        cases hk'
      | some d =>
        have hcls : ∀ k : Entity, (k.withFakeClient true).className = k.className := fun _ => rfl
        rw [e.controllerAt_modifyEntity hd hpos hcls] at hk'
        split at hk'
        · obtain ⟨k, hk, rfl⟩ := Option.map_eq_some_iff.mp hk'
          exact ⟨k, hk, rfl, fun _ => Entity.fakeClient_withFakeClient true k⟩
        · exact ⟨k', hk', rfl, id⟩

/-! ## Frames -/

/-- Two engine states that agree on what `f` reads of every client and on every entity
but for its flag word. -/
structure Agree {γ : Type*} (f : Client → γ) (e e' : Engine) : Prop where
  server : e'.gameServer.map (fun g => (g.addr, g.clients.map (Option.map f))) =
    e.gameServer.map (fun g => (g.addr, g.clients.map (Option.map f)))
  entitySystem : e'.entitySystem = e.entitySystem
  utilRemove : e'.utilRemove = e.utilRemove
  entities : ∀ i, (e'.entities i).map Entity.identity = (e.entities i).map Entity.identity

/-- The frame of the disguise operations: only fake-player bits of clients and flag
words of entities differ. -/
abbrev SameButFlags (e e' : Engine) : Prop := Agree Client.identity e e'

section Agree

variable {γ δ : Type*} {f : Client → γ} {e e' e'' : Engine}

theorem Agree.refl (f : Client → γ) (e : Engine) : Agree f e e :=
  ⟨rfl, rfl, rfl, fun _ => rfl⟩

theorem Agree.symm (h : Agree f e e') : Agree f e' e :=
  ⟨h.server.symm, h.entitySystem.symm, h.utilRemove.symm, fun i => (h.entities i).symm⟩

theorem Agree.trans (h : Agree f e e') (h' : Agree f e' e'') : Agree f e e'' :=
  ⟨h'.server.trans h.server, h'.entitySystem.trans h.entitySystem,
    h'.utilRemove.trans h.utilRemove, fun i => (h'.entities i).trans (h.entities i)⟩

/-- Agreement on more of a client is agreement on less. -/
theorem Agree.comp (g : γ → δ) (h : Agree f e e') : Agree (g ∘ f) e e' := by
  refine ⟨?_, h.entitySystem, h.utilRemove, h.entities⟩
  have key : ∀ e : Engine,
      e.gameServer.map (fun s => (s.addr, s.clients.map (Option.map (g ∘ f)))) =
        (e.gameServer.map fun s => (s.addr, s.clients.map (Option.map f))).map
          fun p => (p.1, p.2.map (Option.map g)) := by
    intro e
    cases e.gameServer with
    | none => rfl
    | some s => simp
  rw [key, key, h.server]

/-- A write that keeps what `f` reads is in the frame. -/
theorem agree_modifyClient (e : Engine) (slot : Nat) {u : Client → Client}
    (hu : ∀ c, f (u c) = f c) : Agree f e (e.modifyClient slot u) := by
  refine ⟨?_, rfl, rfl, fun _ => rfl⟩
  unfold modifyClient
  cases e.gameServer with
  | none => rfl
  | some server =>
    simp only [Option.map_some, Option.some.injEq, Prod.mk.injEq, true_and]
    refine List.ext_getElem? fun i => ?_
    rw [List.getElem?_map, List.getElem?_map, List.getElem?_modify]
    cases server.clients[i]? with
    | none => rfl
    | some c =>
      split
      · cases c with
        | none => rfl
        | some c => simp [hu]
      · rfl

/-- A write to an entity keeps what `g` reads of every entity, when it does of that one. -/
theorem map_entities_modifyEntity {ε : Type*} {g : Entity → ε} (e : Engine) (i : Int)
    {u : Entity → Entity} (hu : ∀ k, g (u k) = g k) (j : Nat) :
    ((e.modifyEntity i u).entities j).map g = (e.entities j).map g := by
  unfold modifyEntity
  dsimp only
  rcases eq_or_ne j i.toNat with rfl | h
  · rw [Function.update_self]
    cases e.entities i.toNat with
    | none => rfl
    | some k => exact congrArg some (hu k)
  · rw [Function.update_of_ne h]

theorem agree_modifyEntity (f : Client → γ) (e : Engine) (i : Int) {u : Entity → Entity}
    (hu : ∀ k, (u k).identity = k.identity) : Agree f e (e.modifyEntity i u) :=
  ⟨rfl, rfl, rfl, map_entities_modifyEntity e i hu⟩

theorem agree_setControllerFakeClientFlag (f : Client → γ) (e : Engine) (slot : Nat) (b : Bool) :
    Agree f e (e.setControllerFakeClientFlag slot b) := by
  unfold setControllerFakeClientFlag
  split
  · exact .refl f e
  · split
    · exact .refl f e
    · exact agree_modifyEntity f e _ fun k => Entity.identity_withFakeClient b k

theorem Agree.clientList (h : Agree f e e') :
    e'.clientList.map (List.map (Option.map f)) = e.clientList.map (List.map (Option.map f)) := by
  have hs := h.server
  unfold Engine.clientList
  cases hg : e.gameServer with
  | none =>
    rw [hg, Option.map_none, Option.map_eq_none_iff] at hs
    rw [hs]
  | some g =>
    cases hg' : e'.gameServer with
    | none =>
      rw [hg, hg'] at hs
      cases hs
    | some g' =>
      rw [hg, hg'] at hs
      simp only [Option.map_some, Option.some.injEq, Prod.mk.injEq] at hs
      have hlen : g'.clients.length = g.clients.length := by
        simpa using congrArg List.length hs.2
      dsimp only
      rw [hlen]
      split
      · rfl
      · rw [Option.map_some, Option.map_some, hs.2]

/-- Inside the frame a slot resolves to the same client, as far as `f` reads it. -/
theorem Agree.resolveClientBySlot (h : Agree f e e') (slot : Nat) :
    (e'.resolveClientBySlot slot).map f = (e.resolveClientBySlot slot).map f := by
  have key : ∀ e : Engine, (e.resolveClientBySlot slot).map f =
      (e.clientList.map (List.map (Option.map f))).bind fun l => l[slot]?.join := by
    intro e
    unfold Engine.resolveClientBySlot
    cases e.clientList with
    | none => rfl
    | some l =>
      simp only [Option.map_some, Option.bind_some, List.getElem?_map]
      cases l[slot]? with
      | none => rfl
      | some c => rfl
  rw [key, key, h.clientList]

/-- A client resolved after a framed change was resolved before, the same to `f`. -/
theorem Agree.exists_client (h : Agree f e e') {slot : Nat} {c' : Client}
    (hc : e'.resolveClientBySlot slot = some c') :
    ∃ c, e.resolveClientBySlot slot = some c ∧ f c' = f c := by
  have := h.resolveClientBySlot slot
  rw [hc] at this
  cases hb : e.resolveClientBySlot slot with
  | none =>
    rw [hb] at this
    cases this
  | some c =>
    rw [hb] at this
    exact ⟨c, rfl, Option.some.inj this⟩

/-- Inside the frame an index resolves to the same entity, but for its flags. -/
theorem Agree.resolveEntityInstance (h : Agree f e e') (i : Int) :
    (e'.resolveEntityInstance i).map Entity.identity =
      (e.resolveEntityInstance i).map Entity.identity := by
  unfold Engine.resolveEntityInstance
  rw [h.entitySystem]
  split
  · rfl
  · exact h.entities _

theorem Agree.resolveController (h : Agree f e e') {c c' : Client}
    (hi : c'.entityIndex = c.entityIndex) :
    (e'.resolveController c').map Entity.identity =
      (e.resolveController c).map Entity.identity := by
  have hent := h.resolveEntityInstance c.entityIndex
  unfold Engine.resolveController
  rw [hi]
  cases hk' : e'.resolveEntityInstance c.entityIndex with
  | none =>
    rw [hk', Option.map_none, eq_comm, Option.map_eq_none_iff] at hent
    rw [hent]
  | some k' =>
    cases hk : e.resolveEntityInstance c.entityIndex with
    | none =>
      rw [hk, hk'] at hent
      cases hent
    | some k =>
      rw [hk, hk', Option.map_some, Option.map_some, Option.some.injEq] at hent
      have hcls : k'.className = k.className := (congrArg Entity.className hent : _)
      by_cases hc : k.className = "cs_player_controller" <;> simp [Option.filter, hcls, hc, hent]

/-- Inside a frame that keeps entity indices a slot's controller is the same, but for
its flags. -/
theorem Agree.controllerAt (h : Agree Client.entityIndex e e') (t : Nat) :
    (e'.controllerAt t).map Entity.identity = (e.controllerAt t).map Entity.identity := by
  have hc := h.resolveClientBySlot t
  unfold Engine.controllerAt
  cases hc' : e'.resolveClientBySlot t with
  | none =>
    rw [hc', Option.map_none, eq_comm, Option.map_eq_none_iff] at hc
    rw [hc]
    rfl
  | some c' =>
    obtain ⟨c, hce, hi⟩ := h.exists_client hc'
    rw [hce]
    exact h.resolveController hi

/-- A controller found after such a change was there before, but for its flags. -/
theorem Agree.exists_controller (h : Agree Client.entityIndex e e') {t : Nat} {k' : Entity}
    (hk : e'.controllerAt t = some k') :
    ∃ k, e.controllerAt t = some k ∧ k'.identity = k.identity := by
  have := h.controllerAt t
  rw [hk, Option.map_some, eq_comm, Option.map_eq_some_iff] at this
  obtain ⟨k, hke, hid⟩ := this
  exact ⟨k, hke, hid.symm⟩

/-- Framed changes keep the clients' controllers apart. -/
theorem Agree.separateControllers (h : Agree Client.entityIndex e e')
    (hsep : e.SeparateControllers) : e'.SeparateControllers := by
  intro s t c' d' hst hc' hd' hk
  obtain ⟨c, hc, hcid⟩ := h.exists_client hc'
  obtain ⟨d, hd, hdid⟩ := h.exists_client hd'
  rw [hcid, hdid]
  refine hsep s t c d hst hc hd ?_
  rw [← Option.isSome_map (f := Entity.identity), ← h.resolveController hcid, Option.isSome_map, hk]

/-- A change confined to one slot: its client and its controller. -/
structure Only (slot : Nat) (e e' : Engine) : Prop where
  agree : Agree Client.entityIndex e e'
  client : ∀ t, t ≠ slot → e'.resolveClientBySlot t = e.resolveClientBySlot t
  controller : e.SeparateControllers → ∀ t, t ≠ slot → e'.controllerAt t = e.controllerAt t

theorem Only.refl (slot : Nat) (e : Engine) : Only slot e e :=
  ⟨.refl _ e, fun _ _ => rfl, fun _ _ _ => rfl⟩

theorem Only.trans {slot : Nat} (h : Only slot e e') (h' : Only slot e' e'') : Only slot e e'' :=
  ⟨h.agree.trans h'.agree, fun t ht => (h'.client t ht).trans (h.client t ht),
    fun hsep t ht => (h'.controller (h.agree.separateControllers hsep) t ht).trans
      (h.controller hsep t ht)⟩

theorem only_modifyClient (e : Engine) (slot : Nat) {u : Client → Client}
    (hu : ∀ c, (u c).entityIndex = c.entityIndex) : Only slot e (e.modifyClient slot u) :=
  ⟨agree_modifyClient e slot hu, fun _ ht => e.resolveClientBySlot_modifyClient_of_ne ht u,
    fun _ t _ => e.controllerAt_modifyClient slot t hu⟩

theorem only_setControllerFakeClientFlag (e : Engine) (slot : Nat) (b : Bool) :
    Only slot e (e.setControllerFakeClientFlag slot b) :=
  ⟨agree_setControllerFakeClientFlag _ e slot b,
    fun t _ => e.resolveClientBySlot_setControllerFakeClientFlag slot t b,
    fun hsep _ ht => e.controllerAt_setControllerFakeClientFlag_of_ne ht hsep b⟩

/-- A write to a client's controller misses the slots whose clients have another one. -/
theorem controllerAt_modifyEntity_of_missed {c : Client} {k : Entity} {t : Nat}
    (hk : e.resolveController c = some k)
    (hmiss : ∀ d, e.resolveClientBySlot t = some d → (e.resolveController d).isSome = true →
      d.entityIndex ≠ c.entityIndex)
    {u : Entity → Entity} (hu : ∀ k, (u k).identity = k.identity) :
    (e.modifyEntity c.entityIndex u).controllerAt t = e.controllerAt t := by
  have hpos := e.pos_of_resolveEntityInstance ((e.resolveController_eq_some).mp hk).1
  have hcls : ∀ k : Entity, (u k).className = k.className := fun k =>
    (congrArg Entity.className (hu k) : _)
  cases hd : e.resolveClientBySlot t with
  | none =>
    unfold controllerAt
    rw [resolveClientBySlot_modifyEntity, hd]
    rfl
  | some d =>
    rw [e.controllerAt_modifyEntity hd hpos hcls]
    split
    · rename_i heq
      cases hkt : e.resolveController d with
      | none =>
        unfold controllerAt
        rw [hd, Option.bind_some, hkt]
        rfl
      | some k' => exact absurd heq (hmiss d hd (by rw [hkt]; rfl))
    · rfl

/-- A write to the controller of a slot's own client is confined to the slot. -/
theorem only_modifyEntity (e : Engine) {slot : Nat} {c : Client}
    (hc : e.resolveClientBySlot slot = some c) {k : Entity} (hk : e.resolveController c = some k)
    {u : Entity → Entity} (hu : ∀ k, (u k).identity = k.identity) :
    Only slot e (e.modifyEntity c.entityIndex u) :=
  ⟨agree_modifyEntity _ e _ hu, fun _ _ => rfl, fun hsep t ht =>
    controllerAt_modifyEntity_of_missed hk
      (fun d hd _ => hsep slot t c d ht.symm hc hd (by rw [hk]; rfl)) hu⟩

theorem SameButFlags.entityIndex (h : SameButFlags e e') : Agree Client.entityIndex e e' :=
  Agree.comp (f := Client.identity) Client.entityIndex h

end Agree

end Engine

end BotHider.Model
