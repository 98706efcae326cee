import BotHider.Model.Memory

/-!
# BotHider — reading the engine in the bytes

The functions that read the process find what lies in `EngineMemory.engine`: the pointer of
a client, the fields behind it, the entity at an index, its class and its state, the pawn of a
client.

* `client_eq`, `ClientAt.fields` — `ResolveClientBySlot` and the fields of what it finds.
* `entity_eq` — `ResolveEntityInstance`.
* `pawn_eq` — `ResolveClientPawn`.
-/

namespace BotHider.Model

namespace EngineMemory

variable {b : EngineBinding} {e : EngineMemory} {slot i j : Nat}

/-! ## Clients -/

theorem clients_fixed : (e.fixed b).clients = (b.fixedClients e.gameServer).run e.memory := rfl

theorem entities_fixed (j : Nat) :
    (e.fixed b).entities j = (b.fixedEntity e.entitySystemGlobal j).run e.memory := rfl

/-- The client list the engine shows. -/
theorem clientList_engine : (e.engine b).clientList =
    if e.gameServer = 0 ∨ 256 < (e.fixed b).clients.length then none
    else some ((e.fixed b).clients.mapIdx fun i c => c.map (·.withCells (e.value b) i)) := by
  unfold Engine.clientList engine
  by_cases hg : e.gameServer = 0
  · rw [if_pos (Or.inl hg)]
    simp only [hg, if_true]
  · simp only [hg, if_false, List.length_mapIdx, false_or]

theorem resolveClientBySlot_engine (slot : Nat) : (e.engine b).resolveClientBySlot slot =
    if e.gameServer = 0 ∨ 256 < (e.fixed b).clients.length then none
    else (e.fixed b).clients[slot]?.join.map (·.withCells (e.value b) slot) := by
  unfold Engine.resolveClientBySlot
  rw [clientList_engine]
  by_cases h : e.gameServer = 0 ∨ 256 < (e.fixed b).clients.length
  · rw [if_pos h, if_pos h]
  · rw [if_neg h, if_neg h]
    dsimp only
    rw [List.getElem?_mapIdx]
    cases (e.fixed b).clients[slot]? with
    | none => rfl
    | some c => rfl

theorem run_fixedClient {client : Nat} (m : Memory) (h : client ≠ 0) :
    (b.fixedClient client).run m = some
      { addr := client
        name := (b.readName client).run m
        entityIndex := (readInt (client + b.entityIndexOffset)).run m
        userId := (readUInt16 (client + b.userIdOffset)).run m
        hltv := (b.isHltv client).run m } := by
  unfold EngineBinding.fixedClient
  rw [if_neg h]
  simp only [Read.run_bind, Read.run_pure]

theorem run_fixedClient_zero (m : Memory) : (b.fixedClient 0).run m = none := rfl

theorem fixedClient_eq_none {client : Nat} {m : Memory} :
    (b.fixedClient client).run m = none ↔ client = 0 := by
  rcases eq_or_ne client 0 with rfl | h
  · simp only [run_fixedClient_zero]
  · simp only [run_fixedClient m h, h, reduceCtorEq]

/-- The fixed part of a client is at its pointer. -/
theorem addr_fixedClient {client : Nat} {f : FixedClient} {m : Memory}
    (h : (b.fixedClient client).run m = some f) : client ≠ 0 ∧ f.addr = client := by
  rcases eq_or_ne client 0 with rfl | hc
  · rw [run_fixedClient_zero] at h
    cases h
  · rw [run_fixedClient m hc, Option.some.injEq] at h
    rw [← h]
    exact ⟨hc, rfl⟩

/-- What `ResolveClientBySlot` finds: the pointer the fixed part was read behind. -/
theorem client_cases (slot : Nat) :
    (e.gameServer = 0 ∨ 256 < (e.fixed b).clients.length ∨ (e.fixed b).clients[slot]?.join = none) ∧
        (b.resolveClientBySlot e.gameServer slot).run e.memory = 0 ∨
      e.gameServer ≠ 0 ∧ (e.fixed b).clients.length ≤ 256 ∧
        ∃ f, (e.fixed b).clients[slot]?.join = some f ∧
          (b.resolveClientBySlot e.gameServer slot).run e.memory = f.addr ∧
          (b.fixedClient f.addr).run e.memory = some f := by
  rw [clients_fixed]
  unfold EngineBinding.resolveClientBySlot EngineBinding.fixedClients
  by_cases hg : e.gameServer = 0
  · exact .inl ⟨.inl hg, by rw [if_pos hg, Read.run_pure]⟩
  · simp only [hg, if_false, Read.run_bind, Read.run_ite, Read.run_pure, Read.run_forList,
      false_or]
    generalize (b.count (e.gameServer + b.clientListOffset)).run e.memory = count
    by_cases hc : count < 0 ∨ count > 256
    · -- out of bounds: nothing is found
      rw [if_pos hc, if_pos (by omega)]
      exact .inl ⟨.inl (by rw [EngineBinding.tooManyClients, List.length_replicate]; omega), rfl⟩
    · rw [if_neg hc]
      have hlen : count.toNat ≤ 256 := by omega
      by_cases hs : (slot : Int) ≥ count
      · -- past the end of the list, which is as long as the count
        rw [if_pos (by omega)]
        refine .inl ⟨.inr ?_, rfl⟩
        rw [List.getElem?_eq_none (by simp; omega)]
        rfl
      · -- in the list: the element is the pointer, or null
        rw [if_neg (by omega), Int.toNat_natCast]
        have hget : (List.range count.toNat)[slot]? = some slot :=
          List.getElem?_range (by omega)
        simp only [List.getElem?_map, hget, Option.map_some, Option.join_some, List.length_map,
          List.length_range]
        cases hf : (b.fixedClient ((b.element (e.gameServer + b.clientListOffset) slot).run
          e.memory)).run e.memory with
        | none => exact .inl ⟨.inr rfl, fixedClient_eq_none.mp hf⟩
        | some f =>
          obtain ⟨-, ha⟩ := addr_fixedClient hf
          exact .inr ⟨hg, hlen, f, rfl, ha.symm, by rw [ha]; exact hf⟩

/-- A client that the engine shows: its fixed part, and the pointer to it. -/
structure ClientAt (b : EngineBinding) (e : EngineMemory) (slot : Nat) (f : FixedClient) :
    Prop where
  fixed : (e.fixed b).clients[slot]?.join = some f
  pointer : (b.resolveClientBySlot e.gameServer slot).run e.memory = f.addr
  read : (b.fixedClient f.addr).run e.memory = some f
  shown : (e.engine b).resolveClientBySlot slot = some (f.withCells (e.value b) slot)

/-- `ResolveClientBySlot` finds the client that the engine shows. -/
theorem client_eq (slot : Nat) :
    (b.resolveClientBySlot e.gameServer slot).run e.memory = 0 ∧
        (e.engine b).resolveClientBySlot slot = none ∨
      ∃ f, ClientAt b e slot f ∧ f.addr ≠ 0 := by
  rcases client_cases (b := b) (e := e) slot with ⟨hnone, h0⟩ | ⟨hg, hlen, f, hf, hp, hr⟩
  · refine .inl ⟨h0, ?_⟩
    rw [resolveClientBySlot_engine]
    split
    · rfl
    · rename_i hok
      have : (e.fixed b).clients[slot]?.join = none := by tauto
      rw [this]
      rfl
  · refine .inr ⟨f, ⟨hf, hp, hr, ?_⟩, (addr_fixedClient hr).1⟩
    rw [resolveClientBySlot_engine, if_neg (by rintro (h | h); exacts [hg h, by omega]), hf]
    rfl

/-- The fields behind the pointer are those of the fixed part. -/
theorem ClientAt.fields {f : FixedClient} (h : ClientAt b e slot f) :
    (readInt (f.addr + b.entityIndexOffset)).run e.memory = f.entityIndex ∧
      (readUInt16 (f.addr + b.userIdOffset)).run e.memory = f.userId ∧
      (b.readName f.addr).run e.memory = f.name ∧
      (b.isHltv f.addr).run e.memory = f.hltv := by
  have hr := h.read
  rw [run_fixedClient _ (addr_fixedClient hr).1] at hr
  obtain ⟨addr, name, entityIndex, userId, hltv⟩ := f
  rw [Option.some.injEq, FixedClient.mk.injEq] at hr
  obtain ⟨-, hname, hindex, huser, hh⟩ := hr
  exact ⟨hindex, huser, hname, hh⟩

/-! ## Entities -/

theorem run_fixedEntity {s j : Nat} {m : Memory} {r : Nat × Bytes}
    (hr : (b.resolveEntityInstance s j kClassNameCap).run m = r) :
    (b.fixedEntity s j).run m = if r.1 = 0 then none else some
      { addr := r.1
        handle := (b.refEHandle r.1).run m
        className := r.2
        beingDeleted := (b.isEntityBeingDeleted r.1).run m
        pawnHandle := (b.pawnHandleAt r.1 r.2).run m } := by
  unfold EngineBinding.fixedEntity
  rw [Read.run_bind, hr, Read.run_ite]
  split
  · exact Read.run_pure _
  · simp only [Read.run_bind, Read.run_pure]

/-- An entity that the engine shows: its fixed part, and the pointers to it. -/
structure EntityAt (b : EngineBinding) (e : EngineMemory) (i : Int) (f : FixedEntity) : Prop where
  fixed : (e.fixed b).entities i.toNat = some f
  index : 0 < i
  found : (b.resolveEntityInstance e.entitySystemGlobal i kClassNameCap).run e.memory =
    (f.addr, f.className)
  handle : (b.refEHandle f.addr).run e.memory = f.handle
  deleted : (b.isEntityBeingDeleted f.addr).run e.memory = f.beingDeleted
  pawnHandle : (b.pawnHandleAt f.addr f.className).run e.memory = f.pawnHandle
  shown : (e.engine b).resolveEntityInstance i = some (f.withCells (e.value b) i.toNat)

theorem resolveEntityInstance_engine (i : Int) : (e.engine b).resolveEntityInstance i =
    if e.entitySystemGlobal = 0 ∨ i ≤ 0 ∨ i ≥ 0x8000 then none
    else ((e.fixed b).entities i.toNat).map (·.withCells (e.value b) i.toNat) := by
  unfold Engine.resolveEntityInstance engine
  by_cases h : e.entitySystemGlobal = 0 ∨ i ≤ 0 ∨ i ≥ 0x8000
  · rw [if_pos h, if_pos]
    simpa [or_assoc] using h
  · rw [if_neg h, if_neg]
    simpa [or_assoc] using h

/-- `ResolveEntityInstance` finds the entity that the engine shows. -/
theorem entity_eq (i : Int) :
    ((b.resolveEntityInstance e.entitySystemGlobal i kClassNameCap).run e.memory).1 = 0 ∧
        (e.engine b).resolveEntityInstance i = none ∨
      ∃ f, EntityAt b e i f ∧ f.addr ≠ 0 := by
  rw [resolveEntityInstance_engine]
  by_cases h : e.entitySystemGlobal = 0 ∨ i ≤ 0 ∨ i ≥ 0x8000
  · -- the range check of both
    refine .inl ⟨?_, if_pos h⟩
    unfold EngineBinding.resolveEntityInstance
    rw [if_pos h, Read.run_pure]
  · -- in range the entity list of the engine is what was read at each index
    rw [if_neg h]
    have hi : ((i.toNat : Nat) : Int) = i := by omega
    generalize hr : (b.resolveEntityInstance e.entitySystemGlobal i kClassNameCap).run e.memory = r
    have hf := run_fixedEntity (hi.symm ▸ hr)
    rw [← entities_fixed] at hf
    by_cases h0 : r.1 = 0
    · rw [if_pos h0] at hf
      exact .inl ⟨h0, by rw [hf, Option.map_none]⟩
    · rw [if_neg h0] at hf
      refine .inr ⟨_, ⟨hf, by omega, hr, rfl, rfl, rfl, ?_⟩, h0⟩
      rw [resolveEntityInstance_engine, if_neg h, hf]
      rfl

/-- Without a class name asked for the instance is the same. -/
theorem found_without_className (s : Nat) (i : Int) (m : Memory) :
    ((b.resolveEntityInstance s i 0).run m).1 =
      ((b.resolveEntityInstance s i kClassNameCap).run m).1 := by
  unfold EngineBinding.resolveEntityInstance
  by_cases h : s = 0 ∨ i ≤ 0 ∨ i ≥ 0x8000
  · rw [if_pos h, if_pos h]
  · rw [if_neg h, if_neg h]
    simp only [Read.run_bind, Read.run_ite, Read.run_pure]
    -- three nulls in a row give up, else the class name makes no difference
    split
    · rfl
    · split
      · rfl
      · rfl

/-! ### Classes -/

theorem charOfByte_injective : Function.Injective fun c : UInt8 => Char.ofNat c.toNat := by
  intro c d h
  have hc : ∀ c : UInt8, (Char.ofNat c.toNat).toNat = c.toNat := by
    intro c
    have hv : c.toNat.isValidChar := Or.inl (by have := c.toNat_lt; omega)
    rw [Char.ofNat, dif_pos hv]
    rfl
  have h' := congrArg Char.toNat h
  rw [hc, hc] at h'
  exact UInt8.toNat_inj.mp h'

theorem classNameText_injective : Function.Injective classNameText := by
  intro c d h
  exact List.map_injective_iff.mpr charOfByte_injective (String.ofList_injective h)

theorem classNameText_playerController :
    classNameText kPlayerController = "cs_player_controller" := by decide +kernel

/-- The class is compared as bytes or as a text. -/
theorem className_iff (f : FixedEntity) (value : EngineCell → Nat) (j : Nat) :
    (f.withCells value j).className = "cs_player_controller" ↔ f.className = kPlayerController := by
  rw [← classNameText_playerController]
  exact classNameText_injective.eq_iff

/-! ### Controllers and pawns -/

/-- The controller of a client, as a class check behind `ResolveEntityInstance` finds it. -/
theorem controller_eq (f : FixedClient) (slot : Nat) :
    (((b.resolveEntityInstance e.entitySystemGlobal f.entityIndex kClassNameCap).run
        e.memory).1 = 0 ∨
        ((b.resolveEntityInstance e.entitySystemGlobal f.entityIndex kClassNameCap).run
          e.memory).2 ≠ kPlayerController) ∧
        (e.engine b).resolveController (f.withCells (e.value b) slot) = none ∨
      ∃ k, EntityAt b e f.entityIndex k ∧ k.addr ≠ 0 ∧ k.className = kPlayerController ∧
        (e.engine b).resolveController (f.withCells (e.value b) slot) =
          some (k.withCells (e.value b) f.entityIndex.toNat) := by
  have hindex : (f.withCells (e.value b) slot).entityIndex = f.entityIndex := rfl
  unfold Engine.resolveController
  rw [hindex]
  rcases entity_eq (b := b) (e := e) f.entityIndex with ⟨h0, hnone⟩ | ⟨k, hk, hne⟩
  · exact .inl ⟨.inl h0, by rw [hnone, Option.filter_none]⟩
  · rw [hk.shown, hk.found]
    by_cases hcls : k.className = kPlayerController
    · refine .inr ⟨k, hk, hne, hcls, ?_⟩
      rw [Option.filter_some, if_pos]
      exact beq_iff_eq.mpr ((className_iff k _ _).mpr hcls)
    · refine .inl ⟨.inr hcls, ?_⟩
      rw [Option.filter_some, if_neg]
      exact fun hc => hcls ((className_iff k _ _).mp (beq_iff_eq.mp hc))

/-- `ResolveClientPawn` from the handle on finds what the engine shows. -/
theorem resolvePawn_eq (pawnHandle : UInt32) :
    (b.resolvePawn e.entitySystemGlobal pawnHandle).run e.memory =
      if pawnHandle = 0xFFFFFFFF then none
      else
        match (e.engine b).resolveEntityInstance (entryIndex pawnHandle) with
        | none => none
        | some pawn =>
          if pawn.beingDeleted ∨ pawn.handle ≠ pawnHandle then none
          else some ⟨pawn.addr, pawnHandle⟩ := by
  unfold EngineBinding.resolvePawn
  rw [Read.run_ite]
  by_cases hnull : pawnHandle = 0xFFFFFFFF
  · rw [if_pos hnull, if_pos hnull, Read.run_pure]
  · rw [if_neg hnull, if_neg hnull]
    simp only [Read.run_bind, Read.run_ite, Read.run_pure, found_without_className]
    rcases entity_eq (b := b) (e := e) (entryIndex pawnHandle) with ⟨h0, hnone⟩ | ⟨k, hk, hne⟩
    · rw [hnone, if_pos (.inl h0)]
    · rw [hk.shown, hk.found, hk.deleted, hk.handle]
      have hdel : (k.withCells (e.value b) (entryIndex pawnHandle).toNat).beingDeleted =
        k.beingDeleted := rfl
      have hh : (k.withCells (e.value b) (entryIndex pawnHandle).toNat).handle = k.handle := rfl
      have ha : (k.withCells (e.value b) (entryIndex pawnHandle).toNat).addr = k.addr := rfl
      dsimp only
      rw [hdel, hh, ha]
      by_cases hd : k.beingDeleted = true
      · rw [if_pos (.inr hd), if_pos (.inl hd)]
      · rw [if_neg (by tauto)]
        by_cases hhandle : k.handle = pawnHandle
        · rw [if_neg (not_not.mpr hhandle), if_neg (by tauto)]
        · rw [if_pos hhandle, if_pos (.inr hhandle)]

/-- The pawn handles are those read behind the controllers. -/
theorem exists_pawnHandles {offset : Nat} (ho : b.botPawnHandleOffset = some offset) :
    ∃ g, e.pawnHandles b = some g ∧ ∀ i k, EntityAt b e i k → k.className = kPlayerController →
      UInt32.ofBitVec ((readWord (k.addr + offset)).run e.memory) = g i.toNat := by
  refine ⟨fun j => (((e.fixed b).entities j).map (·.pawnHandle)).getD 0, ?_, ?_⟩
  · unfold pawnHandles
    rw [ho, Option.map_some]
  · intro i k hk hcls
    have hp := hk.pawnHandle
    unfold EngineBinding.pawnHandleAt at hp
    rw [ho] at hp
    dsimp only at hp
    rw [if_pos hcls, Read.run_map] at hp
    dsimp only
    rw [hp, hk.fixed, Option.map_some, Option.getD_some]

/-- `ResolveClientPawn` finds the pawn that the engine shows. -/
theorem pawn_eq (slot : Nat) :
    (b.resolveClientPawn e.entitySystemGlobal
        ((b.resolveClientBySlot e.gameServer slot).run e.memory)).run e.memory =
      (e.engine b).resolveClientPawn (e.pawnHandles b) ((e.engine b).resolveClientBySlot slot) := by
  unfold EngineBinding.resolveClientPawn Engine.resolveClientPawn
  cases ho : b.botPawnHandleOffset with
  | none =>
    have hnone : e.pawnHandles b = none := by
      unfold pawnHandles
      rw [ho, Option.map_none]
    rw [hnone]
    cases (e.engine b).resolveClientBySlot slot with
    | none => rfl
    | some c => rfl
  | some offset =>
    obtain ⟨g, hg, hpawn⟩ := exists_pawnHandles (e := e) ho
    rw [hg]
    dsimp only
    rcases client_eq (b := b) (e := e) slot with ⟨h0, hnone⟩ | ⟨f, hf, hne⟩
    · rw [h0, hnone, if_pos rfl, Read.run_pure]
    · rw [hf.pointer, hf.shown, if_neg hne]
      dsimp only
      rw [Read.run_bind, hf.fields.1, Read.run_bind, Read.run_bind, Read.run_ite]
      rcases controller_eq (b := b) (e := e) f slot with ⟨hbad, hnone⟩ | ⟨k, hk, hk0, hcls, hres⟩
      · rw [hnone, if_pos (by tauto), Read.run_pure]
      · have hdel : (k.withCells (e.value b) f.entityIndex.toNat).beingDeleted =
          k.beingDeleted := rfl
        have hindex : (f.withCells (e.value b) slot).entityIndex = f.entityIndex := rfl
        rw [hres, hk.found, hk.deleted]
        dsimp only
        rw [hdel, hindex]
        -- a controller that is being deleted has no pawn, any other has that of its handle
        by_cases hd : k.beingDeleted = true
        · rw [if_pos (.inr (.inr hd)), if_pos hd, Read.run_pure]
        · rw [if_neg (by tauto), if_neg hd, Read.run_bind, hpawn _ k hk hcls]
          refine (resolvePawn_eq _).trans ?_
          cases (e.engine b).resolveEntityInstance (entryIndex (g f.entityIndex.toNat)) with
          | none => rfl
          | some pawn => rfl

end EngineMemory

end BotHider.Model
