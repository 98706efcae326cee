import BotHider.Memory.Fields

/-!
# BotHider — writing the engine in the bytes

A write to a field is a write to its cell (`EngineMemory.put`): the engine in the bytes has
the field changed and nothing else, the layout stays, and no byte outside the cells changes.

* `Simulated` — what a function on the bytes does is what one on the engine does.
* `simulated_fakePlayer`, `simulated_writeSteamId`, `simulated_flags` — the writes to a client
  and to a flag word.
-/

namespace BotHider.Model

namespace EngineMemory

variable {b : EngineBinding} {e e' e'' : EngineMemory} {slot i j : Nat} {r : Engine}

/-! ## Changes that keep the layout -/

/-- The pointers are as before, the layout too, and only bytes of cells have changed. -/
structure Kept (b : EngineBinding) (e e' : EngineMemory) : Prop where
  roots : e' = e.withMemory e'.memory
  laid : e'.Laid b
  outside : (e.layout b).Outside e.memory e'.memory

theorem Kept.refl (h : e.Laid b) : Kept b e e := ⟨rfl, h, .refl _ _⟩

theorem Kept.layout (h : Kept b e e') : e'.layout b = e.layout b := by
  rw [h.roots]
  rfl

theorem Kept.trans (h : Kept b e e') (h' : Kept b e' e'') : Kept b e e'' := by
  refine ⟨?_, h'.laid, h.outside.trans ?_⟩
  · rw [h'.roots, h.roots]
    rfl
  · rw [← h.layout]
    exact h'.outside

theorem Kept.fixed (h : Kept b e e') : e'.fixed b = e.fixed b := by
  unfold EngineMemory.fixed
  rw [h.layout]
  exact h.outside.fixed

theorem Kept.gameServer (h : Kept b e e') : e'.gameServer = e.gameServer := by
  rw [h.roots]
  rfl

theorem Kept.entitySystemGlobal (h : Kept b e e') :
    e'.entitySystemGlobal = e.entitySystemGlobal := by
  rw [h.roots]
  rfl

/-- A client that was shown is shown, behind the same pointer. -/
theorem ClientAt.kept {f : FixedClient} (hf : ClientAt b e slot f) (h : Kept b e e') :
    ClientAt b e' slot f := by
  have hshown : (e'.engine b).resolveClientBySlot slot =
      some (f.withCells (e'.value b) slot) := by
    have hs := hf.shown
    rw [resolveClientBySlot_engine] at hs ⊢
    rw [h.gameServer, h.fixed]
    split at hs
    · cases hs
    · rename_i hok
      rw [if_neg hok, hf.fixed, Option.map_some]
  rcases client_eq (b := b) (e := e') slot with ⟨-, hnone⟩ | ⟨f', hf', -⟩
  · rw [hshown] at hnone
    cases hnone
  · have hsame : f' = f := by
      have := hf'.fixed
      rw [h.fixed, hf.fixed] at this
      exact (Option.some.inj this).symm
    rw [← hsame]
    exact hf'

/-- An entity that was shown is shown, behind the same pointer. -/
theorem EntityAt.kept {i : Int} {k : FixedEntity} (hk : EntityAt b e i k) (h : Kept b e e') :
    EntityAt b e' i k := by
  have hshown : (e'.engine b).resolveEntityInstance i =
      some (k.withCells (e'.value b) i.toNat) := by
    have hs := hk.shown
    rw [resolveEntityInstance_engine] at hs ⊢
    rw [h.entitySystemGlobal, h.fixed]
    split at hs
    · cases hs
    · rename_i hok
      rw [if_neg hok, hk.fixed, Option.map_some]
  rcases entity_eq (b := b) (e := e') i with ⟨-, hnone⟩ | ⟨k', hk', -⟩
  · rw [hshown] at hnone
    cases hnone
  · have hsame : k' = k := by
      have := hk'.fixed
      rw [h.fixed, hk.fixed] at this
      exact (Option.some.inj this).symm
    rw [← hsame]
    exact hk'

/-- What was done to the bytes is `r` to the engine in them. -/
structure Simulated (b : EngineBinding) (e e' : EngineMemory) (r : Engine) : Prop where
  kept : Kept b e e'
  engine : e'.engine b = r

theorem Simulated.refl (h : e.Laid b) : Simulated b e e (e.engine b) := ⟨.refl h, rfl⟩

theorem Simulated.trans {r' : Engine} (h : Simulated b e e' r) (h' : Simulated b e' e'' r') :
    Simulated b e e'' r' := ⟨h.kept.trans h'.kept, h'.engine⟩

/-! ## Cells -/

/-- A cell written. -/
def put (b : EngineBinding) (cell : EngineCell) (v : Nat) (e : EngineMemory) : EngineMemory :=
  e.withMemory ((e.layout b).write e.memory cell v)

theorem kept_put (h : e.Laid b) (cell : EngineCell) (v : Nat) : Kept b e (e.put b cell v) :=
  ⟨rfl, Layout.laid_write h, Layout.outside_write h⟩

theorem value_put (h : e.Laid b) {cell : EngineCell} {s : Nat × Nat}
    (hs : b.span (e.fixed b) cell = some s) (v : Nat) :
    (e.put b cell v).value b = Function.update (e.value b) cell (v % 256 ^ s.2) := by
  funext c
  rcases eq_or_ne c cell with rfl | hne
  · rw [Function.update_self]
    exact Layout.value_write_self h hs
  · rw [Function.update_of_ne hne]
    exact Layout.value_write_of_ne h hne

/-- The engine after a change to the cells of one client. -/
theorem engine_eq_modifyClient {u : Client → Client} (h : Kept b e e')
    (hflags : ∀ j, e'.value b (.flags j) = e.value b (.flags j))
    (hother : ∀ (f : FixedClient) j, j ≠ i →
      f.withCells (e'.value b) j = f.withCells (e.value b) j)
    (hself : ∀ f : FixedClient, f.withCells (e'.value b) i = u (f.withCells (e.value b) i)) :
    e'.engine b = (e.engine b).modifyClient i u := by
  have hentities : ∀ (k : FixedEntity) j,
      k.withCells (e'.value b) j = k.withCells (e.value b) j := by
    intro k j
    unfold FixedEntity.withCells
    rw [hflags]
  -- the list differs at one index, where it has the changed client
  have hclients : (e.fixed b).clients.mapIdx (fun j c => c.map (·.withCells (e'.value b) j)) =
      ((e.fixed b).clients.mapIdx fun j c => c.map (·.withCells (e.value b) j)).modify i
        (Option.map u) := by
    refine List.ext_getElem? fun j => ?_
    rw [List.getElem?_mapIdx, List.getElem?_modify, List.getElem?_mapIdx]
    cases (e.fixed b).clients[j]? with
    | none => rfl
    | some c =>
      cases c with
      | none => split <;> rfl
      | some f =>
        simp only [Option.map_some, Option.map_eq_map]
        rcases eq_or_ne i j with rfl | hne
        · rw [if_pos rfl, hself]
        · rw [if_neg hne, hother f j hne.symm]
  have hroots := h.roots
  unfold engine Engine.modifyClient
  simp only [hclients, hentities, h.gameServer, h.entitySystemGlobal, h.fixed]
  -- the player states and the removal function are not in the bytes
  rw [Engine.mk.injEq]
  refine ⟨?_, rfl, ?_, rfl, ?_⟩
  · by_cases hg : e.gameServer = 0
    · rw [if_pos hg, if_pos hg]
      rfl
    · rw [if_neg hg, if_neg hg]
      rfl
  · rw [hroots]
    rfl
  · rw [hroots]
    rfl

/-- The engine after a change to the flag word of one entity. -/
theorem engine_eq_modifyEntity {i : Int} {u : Entity → Entity} (h : Kept b e e')
    (hclients : ∀ (f : FixedClient) j, f.withCells (e'.value b) j = f.withCells (e.value b) j)
    (hother : ∀ (k : FixedEntity) j, j ≠ i.toNat →
      k.withCells (e'.value b) j = k.withCells (e.value b) j)
    (hself : ∀ k : FixedEntity,
      k.withCells (e'.value b) i.toNat = u (k.withCells (e.value b) i.toNat)) :
    e'.engine b = (e.engine b).modifyEntity i u := by
  have hroots := h.roots
  unfold engine Engine.modifyEntity
  simp only [hclients, h.gameServer, h.entitySystemGlobal, h.fixed]
  rw [Engine.mk.injEq]
  refine ⟨rfl, rfl, ?_, ?_, ?_⟩
  · rw [hroots]
    rfl
  · funext j
    rcases eq_or_ne j i.toNat with rfl | hne
    · rw [Function.update_self]
      cases (e.fixed b).entities i.toNat with
      | none => rfl
      | some k => simp only [Option.map_some, hself]
    · rw [Function.update_of_ne hne]
      cases (e.fixed b).entities j with
      | none => rfl
      | some k => simp only [Option.map_some, hother k j hne]
  · rw [hroots]
    rfl

/-! ## Fields -/

/-- The cell of a client's field. -/
theorem span_client {f : FixedClient} (hf : ClientAt b e i f) :
    b.span (e.fixed b) (.connectionFlags i) = some (f.addr + b.connectionTypeFlagsOffset, 1) ∧
      b.span (e.fixed b) (.fakePlayer i) = some (f.addr + b.fakePlayerOffset, 1) ∧
      b.span (e.fixed b) (.steamId i) = some (f.addr + b.steamIdOffset, 8) ∧
      b.span (e.fixed b) (.steamIdMirror i) = some (f.addr + b.steamIdMirrorOffset, 8) := by
  unfold EngineBinding.span
  simp only [hf.fixed, Option.map_some, and_self]

/-- A byte of a client is read and written in its cell. -/
theorem readByte_eq {cell : EngineCell} {a : Nat}
    (hs : b.span (e.fixed b) cell = some (a, 1)) :
    (readByte a).run e.memory = BitVec.ofNat 8 (e.value b cell) := by
  unfold readByte
  rw [Read.run_map]
  exact congrArg _ (Layout.value_of_span (L := e.layout b) hs).symm

theorem writeByte_eq {cell : EngineCell} {a : Nat} (hs : b.span (e.fixed b) cell = some (a, 1))
    (v : BitVec 8) : e.withMemory (writeByte a v e.memory) = e.put b cell v.toNat :=
  congrArg e.withMemory (Layout.write_of_span (L := e.layout b) hs).symm

theorem writeUInt64_eq {cell : EngineCell} {a : Nat}
    (hs : b.span (e.fixed b) cell = some (a, 8)) (v : UInt64) :
    e.withMemory (writeUInt64 a v e.memory) = e.put b cell v.toNat :=
  congrArg e.withMemory (Layout.write_of_span (L := e.layout b) hs).symm

theorem ofNat_toNat_mod {w n : Nat} (hw : 256 ^ n = 2 ^ w) (v : BitVec w) :
    BitVec.ofNat w (v.toNat % 256 ^ n) = v := by
  rw [hw, Nat.mod_eq_of_lt v.isLt, BitVec.ofNat_toNat, BitVec.setWidth_eq]

theorem uint64_ofNat_toNat_mod (v : UInt64) : UInt64.ofNat (v.toNat % 256 ^ 8) = v := by
  have hlt : v.toNat < 256 ^ 8 := v.toNat_lt
  rw [Nat.mod_eq_of_lt hlt, UInt64.ofNat_toNat]

/-- The engine after a cell of one client is written. -/
theorem engine_put_client (h : e.Laid b) {cell : EngineCell} {s : Nat × Nat}
    (hs : b.span (e.fixed b) cell = some s) {v : Nat} {u : Client → Client}
    (hflags : ∀ j, EngineCell.flags j ≠ cell)
    (hother : ∀ (f : FixedClient) j, j ≠ i → ∀ w,
      f.withCells (Function.update (e.value b) cell w) j = f.withCells (e.value b) j)
    (hself : ∀ f : FixedClient, f.withCells (Function.update (e.value b) cell (v % 256 ^ s.2)) i =
      u (f.withCells (e.value b) i)) :
    (e.put b cell v).engine b = (e.engine b).modifyClient i u := by
  have hv := value_put h hs v
  refine engine_eq_modifyClient (kept_put h cell v) ?_ ?_ ?_
  · intro j
    rw [hv, Function.update_of_ne (hflags j)]
  · intro f j hne
    rw [hv]
    exact hother f j hne _
  · intro f
    rw [hv]
    exact hself f

theorem engine_put_connectionFlags (h : e.Laid b) {f : FixedClient} (hf : ClientAt b e i f)
    (v : BitVec 8) : (e.put b (.connectionFlags i) v.toNat).engine b =
      (e.engine b).modifyClient i fun c => { c with connectionFlags := v } := by
  refine engine_put_client h (span_client hf).1 (by simp) ?_ ?_
  · intro f' j hne w
    unfold FixedClient.withCells
    simp only [Function.update_apply, EngineCell.connectionFlags.injEq, hne, reduceCtorEq, if_false]
  · intro f'
    unfold FixedClient.withCells
    simp only [Function.update_apply, reduceCtorEq, if_false, if_true,
      ofNat_toNat_mod (w := 8) (n := 1) rfl]

theorem engine_put_fakePlayer (h : e.Laid b) {f : FixedClient} (hf : ClientAt b e i f)
    (v : BitVec 8) : (e.put b (.fakePlayer i) v.toNat).engine b =
      (e.engine b).modifyClient i fun c => { c with fakePlayer := v } := by
  refine engine_put_client h (span_client hf).2.1 (by simp) ?_ ?_
  · intro f' j hne w
    unfold FixedClient.withCells
    simp only [Function.update_apply, EngineCell.fakePlayer.injEq, hne, reduceCtorEq, if_false]
  · intro f'
    unfold FixedClient.withCells
    simp only [Function.update_apply, reduceCtorEq, if_false, if_true,
      ofNat_toNat_mod (w := 8) (n := 1) rfl]

theorem engine_put_steamId (h : e.Laid b) {f : FixedClient} (hf : ClientAt b e i f)
    (v : UInt64) : (e.put b (.steamId i) v.toNat).engine b =
      (e.engine b).modifyClient i fun c => { c with steamId := v } := by
  refine engine_put_client h (span_client hf).2.2.1 (by simp) ?_ ?_
  · intro f' j hne w
    unfold FixedClient.withCells
    simp only [Function.update_apply, EngineCell.steamId.injEq, hne, reduceCtorEq, if_false]
  · intro f'
    unfold FixedClient.withCells
    simp only [Function.update_apply, reduceCtorEq, if_false, if_true, uint64_ofNat_toNat_mod]

theorem engine_put_steamIdMirror (h : e.Laid b) {f : FixedClient} (hf : ClientAt b e i f)
    (v : UInt64) : (e.put b (.steamIdMirror i) v.toNat).engine b =
      (e.engine b).modifyClient i fun c => { c with steamIdMirror := v } := by
  refine engine_put_client h (span_client hf).2.2.2 (by simp) ?_ ?_
  · intro f' j hne w
    unfold FixedClient.withCells
    simp only [Function.update_apply, EngineCell.steamIdMirror.injEq, hne, reduceCtorEq, if_false]
  · intro f'
    unfold FixedClient.withCells
    simp only [Function.update_apply, reduceCtorEq, if_false, if_true, uint64_ofNat_toNat_mod]

/-- Two writes to a client are one. -/
theorem modifyClient_modifyClient (r : Engine) (i : Nat) (u u' : Client → Client) :
    (r.modifyClient i u).modifyClient i u' = r.modifyClient i (u' ∘ u) := by
  unfold Engine.modifyClient
  cases r.gameServer with
  | none => rfl
  | some server =>
    simp only [Option.map_some]
    congr 3
    refine List.ext_getElem? fun j => ?_
    simp only [List.getElem?_modify]
    cases server.clients[j]? with
    | none => rfl
    | some c =>
      simp only [Option.map_eq_map, Option.map_some]
      by_cases hij : i = j
      · rw [if_pos hij, if_pos hij, if_pos hij, Option.map_map]
      · rw [if_neg hij, if_neg hij, if_neg hij]

/-- A write to a client depends on what it does to the client that is there. -/
theorem modifyClient_congr {c : Client} {u u' : Client → Client}
    (hc : r.resolveClientBySlot i = some c) (hu : u c = u' c) :
    r.modifyClient i u = r.modifyClient i u' := by
  unfold Engine.resolveClientBySlot Engine.clientList at hc
  unfold Engine.modifyClient
  cases hg : r.gameServer with
  | none => rfl
  | some server =>
    rw [hg] at hc
    simp only [Option.map_some]
    congr 3
    refine List.ext_getElem? fun j => ?_
    simp only [List.getElem?_modify]
    by_cases hij : i = j
    · subst hij
      dsimp only at hc
      split at hc
      · cases hc
      · rename_i clients hclients
        split at hclients
        · cases hclients
        · rw [Option.some.injEq] at hclients
          subst hclients
          cases hj : server.clients[i]? with
          | none => rfl
          | some d =>
            rw [hj, Option.join_some] at hc
            rw [hc]
            simp only [Option.map_eq_map, Option.map_some, if_true, hu]
    · simp only [if_neg hij]

/-! ## Clients -/

theorem engine_eq_of_modifyClient {u : Client → Client} {f : FixedClient}
    (hf : ClientAt b e i f) (v : BitVec 8) (g : BitVec 8 → BitVec 8)
    (hv : v = g (BitVec.ofNat 8 (e.value b (.connectionFlags i))))
    (hu : u = fun c => { c with connectionFlags := v }) :
    (e.engine b).modifyClient i u =
      (e.engine b).modifyClient i fun c => { c with connectionFlags := g c.connectionFlags } := by
  refine modifyClient_congr hf.shown ?_
  rw [hu, hv]
  rfl

/-- The connection flags of a client written, to what depends on the old ones. -/
theorem simulated_connectionFlags (h : e.Laid b) {f : FixedClient} (hf : ClientAt b e slot f)
    (g : BitVec 8 → BitVec 8) :
    Simulated b e
      (e.withMemory (writeByte (f.addr + b.connectionTypeFlagsOffset)
        (g ((readByte (f.addr + b.connectionTypeFlagsOffset)).run e.memory)) e.memory))
      ((e.engine b).modifyClient slot fun c =>
        { c with connectionFlags := g c.connectionFlags }) := by
  have hs := (span_client hf).1
  rw [writeByte_eq hs, readByte_eq hs]
  refine ⟨kept_put h _ _, ?_⟩
  rw [engine_put_connectionFlags h hf]
  exact engine_eq_of_modifyClient hf _ g rfl rfl

/-- The fake-player byte of a client written. -/
theorem simulated_fakePlayerByte (h : e.Laid b) {f : FixedClient} (hf : ClientAt b e slot f)
    (v : BitVec 8) :
    Simulated b e (e.withMemory (writeByte (f.addr + b.fakePlayerOffset) v e.memory))
      ((e.engine b).modifyClient slot fun c => { c with fakePlayer := v }) := by
  rw [writeByte_eq (span_client hf).2.1]
  exact ⟨kept_put h _ _, engine_put_fakePlayer h hf v⟩

/-- The fake-player byte that is read is the client's. -/
theorem isFakePlayerSet_eq {f : FixedClient} (hf : ClientAt b e slot f) :
    (b.isFakePlayerSet f.addr).run e.memory = (f.withCells (e.value b) slot).isFakePlayerSet := by
  unfold EngineBinding.isFakePlayerSet
  rw [Read.run_map, readByte_eq (span_client hf).2.1]
  rfl

/-- Both flag bytes of a client written. -/
theorem simulated_fakePlayer (h : e.Laid b) {f : FixedClient} (hf : ClientAt b e slot f)
    (g : BitVec 8 → BitVec 8) (v : BitVec 8) :
    Simulated b e
      (e.withMemory (writeByte (f.addr + b.fakePlayerOffset) v
        (writeByte (f.addr + b.connectionTypeFlagsOffset)
          (g ((readByte (f.addr + b.connectionTypeFlagsOffset)).run e.memory)) e.memory)))
      ((e.engine b).modifyClient slot fun c =>
        { c with connectionFlags := g c.connectionFlags, fakePlayer := v }) := by
  -- the client is at the same pointer for the second write
  have h1 := simulated_connectionFlags h hf g
  have h2 := simulated_fakePlayerByte h1.kept.laid (hf.kept h1.kept) v
  rw [h1.engine, modifyClient_modifyClient] at h2
  exact h1.trans h2

theorem simulated_clearFakePlayer (h : e.Laid b) {f : FixedClient} (hf : ClientAt b e slot f) :
    Simulated b e (e.withMemory (b.clearFakePlayer f.addr e.memory))
      ((e.engine b).modifyClient slot Client.clearFakePlayer) :=
  simulated_fakePlayer h hf (fun flags => (flags &&& ~~~0x08#8) ||| 0x01#8) 0

theorem simulated_setFakePlayer (h : e.Laid b) {f : FixedClient} (hf : ClientAt b e slot f) :
    Simulated b e (e.withMemory (b.setFakePlayer f.addr e.memory))
      ((e.engine b).modifyClient slot Client.setFakePlayer) :=
  simulated_fakePlayer h hf (fun flags => (flags &&& ~~~0x01#8) ||| 0x08#8) 1

theorem simulated_writeSteamId (h : e.Laid b) {f : FixedClient} (hf : ClientAt b e slot f)
    (steamId : UInt64) :
    Simulated b e (e.withMemory (b.writeSteamId f.addr steamId e.memory))
      ((e.engine b).modifyClient slot (Client.writeSteamId steamId)) := by
  have h1 : Simulated b e
      (e.withMemory (writeUInt64 (f.addr + b.steamIdOffset) steamId e.memory))
      ((e.engine b).modifyClient slot fun c => { c with steamId := steamId }) := by
    rw [writeUInt64_eq (span_client hf).2.2.1]
    exact ⟨kept_put h _ _, engine_put_steamId h hf steamId⟩
  have h2 : Simulated b (e.withMemory (writeUInt64 (f.addr + b.steamIdOffset) steamId e.memory))
      (e.withMemory (b.writeSteamId f.addr steamId e.memory))
      (((e.engine b).modifyClient slot fun c => { c with steamId := steamId }).modifyClient slot
        fun c => { c with steamIdMirror := steamId }) := by
    rw [← h1.engine]
    have hf' := hf.kept h1.kept
    have hw := writeUInt64_eq (span_client hf').2.2.2 steamId
    have hp := engine_put_steamIdMirror h1.kept.laid hf' steamId
    rw [← hw] at hp
    exact ⟨hw ▸ kept_put h1.kept.laid _ _, hp⟩
  rw [modifyClient_modifyClient] at h2
  exact h1.trans h2

/-! ## Flag words -/

theorem span_flags {i : Int} {k : FixedEntity} (hk : EntityAt b e i k) :
    b.span (e.fixed b) (.flags i.toNat) = some (k.addr + b.baseEntityFlagsOffset, 4) := by
  unfold EngineBinding.span
  simp only [hk.fixed, Option.map_some]

/-- The flag word behind the pointer is the one the engine shows. -/
theorem flags_eq {i : Int} {k : FixedEntity} (hk : EntityAt b e i k) :
    e.flags b k.addr = (k.withCells (e.value b) i.toNat).flags := by
  unfold flags readWord
  rw [Read.run_map]
  have hv := Layout.value_of_span (L := e.layout b) (m := e.memory) (i := .flags i.toNat)
    (span_flags hk)
  exact congrArg _ hv.symm

/-- A write to an entity depends on what it does to the entity that is there. -/
theorem modifyEntity_congr {i : Int} {k : Entity} {u u' : Entity → Entity}
    (hk : r.resolveEntityInstance i = some k) (hu : u k = u' k) :
    r.modifyEntity i u = r.modifyEntity i u' := by
  unfold Engine.resolveEntityInstance at hk
  split at hk
  · cases hk
  · unfold Engine.modifyEntity
    rw [hk, Option.map_some, Option.map_some, hu]

theorem simulated_flags (h : e.Laid b) {i : Int} {k : FixedEntity} (hk : EntityAt b e i k)
    (g : BitVec 32 → BitVec 32) :
    Simulated b e (e.modifyFlags b k.addr g)
      ((e.engine b).modifyEntity i fun k => { k with flags := g k.flags }) := by
  have hs := span_flags hk
  have hw : e.modifyFlags b k.addr g =
      e.put b (.flags i.toNat) (g (e.flags b k.addr)).toNat :=
    congrArg e.withMemory (Layout.write_of_span (L := e.layout b) (m := e.memory)
      (i := .flags i.toNat) hs).symm
  have hv := value_put h hs (g (e.flags b k.addr)).toNat
  rw [hw]
  refine ⟨kept_put h _ _, ?_⟩
  rw [engine_eq_modifyEntity (u := fun k' => { k' with flags := g (e.flags b k.addr) })
    (kept_put h _ _)]
  · refine modifyEntity_congr hk.shown ?_
    rw [flags_eq hk]
  · intro f j
    unfold FixedClient.withCells
    rw [hv]
    simp only [Function.update_apply, reduceCtorEq, if_false]
  · intro k' j hne
    unfold FixedEntity.withCells
    rw [hv]
    simp only [Function.update_apply, EngineCell.flags.injEq, hne, if_false]
  · intro k'
    unfold FixedEntity.withCells
    rw [hv]
    simp only [Function.update_apply, if_true, ofNat_toNat_mod (w := 32) (n := 4) rfl]

end EngineMemory

end BotHider.Model
