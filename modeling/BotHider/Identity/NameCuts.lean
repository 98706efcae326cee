import BotHider.Kick.Names
import BotHider.Lib.Utf8
import BotHider.Pool.Texts

/-!
# BotHider — names cut to the slot record

`CopyText` cuts a name to the bytes a slot record has room for, wherever that falls. The pool's
names are short enough by the loader's check and the managed client bounds its own by whole
elements, but a name the engine reports has any length, so the cut can leave a character in
halves. `bounded_copies_keep_text` says exactly when it does not.
-/

namespace BotHider.Model

/-! ## What is read back -/

/-- `PersonaName` sees the stored name. -/
theorem personaName_eq_getSlotName (m : FakeClientManager) (slot : Slot) :
    (m.slots slot).snapshot.personaName = m.getSlotName slot := readText_full _

/-- `ApplyClientName` hands the engine the C string it is given. -/
theorem name_applyClientName (w : World) {call : SetNameCall} {slot : Slot} {client : Client}
    {name : Bytes} (hcall : call.available = true)
    (hclient : w.engine.resolveClientBySlot slot = some client) (hname : cstr name ≠ []) :
    ((w.applyClientName call slot name).1.engine.resolveClientBySlot slot).bind Client.name =
      call.applied (cstr name) := by
  have hset : w.engine.setEngineName call slot name =
      (w.engine.modifyClient slot fun c => { c with name := call.applied (cstr name) },
        call.applied (cstr name)) := by
    unfold Engine.setEngineName
    rw [if_neg (by simp [hname, hcall])]
  have hres : (w.applyClientName call slot name).1.engine.resolveClientBySlot slot =
      (w.engine.setEngineName call slot name).1.resolveClientBySlot slot := rfl
  rw [hres, hset, Engine.resolveClientBySlot_modifyClient_self, hclient]
  rfl

/-- Server entry puts a stored name back on through the engine's `SetName`. -/
theorem name_reapplyIdentity (w : World) {call : SetNameCall} {slot : Slot} {client : Client}
    (name : Option Bytes) (hcall : call.available = true)
    (hclient : w.engine.resolveClientBySlot slot = some client)
    (hstored : w.manager.getSlotName slot ≠ []) :
    ((w.reapplyIdentity call slot name).engine.resolveClientBySlot slot).bind Client.name =
      call.applied (w.manager.getSlotName slot) := by
  have hcstr : cstr (w.manager.getSlotName slot) = w.manager.getSlotName slot := cstr_cstr _
  -- the disguise and the SteamID are written first; the client is still there
  have hwritten : ∃ c, (World.writeSteamId (if w.isDisguiseEnabled then
      w.disguiseClient slot w.populationTransactionActive else w) slot
      (w.manager.getSyntheticSid slot)).engine.resolveClientBySlot slot = some c := by
    cases w.isDisguiseEnabled <;> simp [hclient]
  obtain ⟨c, hc⟩ := hwritten
  unfold World.reapplyIdentity
  dsimp only
  rw [if_neg hstored, if_neg hstored,
    name_applyClientName _ hcall hc (by rwa [hcstr]), hcstr]

/-! ## The cut -/

/-- The name kept at a slot is a text's beginning, for whoever reads it: it is UTF-8 and begins
the text's bytes, the managed client reads the text's first characters, and server entry hands
it to the engine as it is. -/
structure FakeClientManager.KeepsText (m : FakeClientManager) (slot : Slot) (text : List Char) :
    Prop where
  valid : Utf8.Valid (m.getSlotName slot)
  first : m.getSlotName slot <+: Utf8.encode text
  bounded : (m.getSlotName slot).length ≤ 31
  shown : Utf8.decode (m.slots slot).snapshot.personaName <+: text
  handed : ∀ (w : World) (call : SetNameCall) (client : Client) (name : Option Bytes),
    w.manager = m → call.available = true → w.engine.resolveClientBySlot slot = some client →
      m.getSlotName slot ≠ [] → ∃ given, Utf8.Valid given ∧
        ((w.reapplyIdentity call slot name).engine.resolveClientBySlot slot).bind Client.name =
          call.applied given

/-- A name stored by `CopyText` is kept exactly when the byte it cuts in front of starts a
character. -/
theorem keepsText_iff {m : FakeClientManager} {slot : Slot} {name : Option Bytes}
    {text : List Char} (hstored : (m.slots slot).snapshot.name = copyText kNameLen name)
    (hname : cstr (name.getD []) = Utf8.encode text) :
    m.KeepsText slot text ↔ Utf8.Boundary (Utf8.encode text) 31 := by
  have hslot : m.getSlotName slot = (Utf8.encode text).take 31 := by
    unfold FakeClientManager.getSlotName
    rw [hstored, text_copyText, hname]
    rfl
  constructor
  · intro h
    have hvalid := h.valid
    rwa [hslot, Utf8.valid_take_iff] at hvalid
  · intro h
    have hvalid : Utf8.Valid (m.getSlotName slot) := hslot ▸ h.valid_take
    refine ⟨hvalid, ?_, ?_, ?_, ?_⟩
    · rw [hslot]
      exact List.take_prefix _ _
    · rw [hslot]
      exact List.length_take_le _ _
    · rw [personaName_eq_getSlotName, hslot]
      exact h.decode_take
    · rintro w call client reported rfl hcall hclient hne
      exact ⟨_, hvalid, name_reapplyIdentity w reported hcall hclient hne⟩

/-- **Name cuts.** Whatever text a name encodes, the copy that `AdoptSlot` or `SetSlotName`
stores keeps it exactly when the text's byte 31, if it is that long, starts a character. -/
theorem bounded_copies_keep_text (m : FakeClientManager) (slot : Slot)
    (a : FakeClientManager.Adoption) (clock : UInt64) (name : Option Bytes) (text : List Char)
    (hname : cstr (name.getD []) = Utf8.encode text) :
    ((m.adoptSlot slot { a with name := name } clock).KeepsText slot text ↔
        Utf8.Boundary (Utf8.encode text) 31) ∧
      ((m.setSlotName slot name).KeepsText slot text ↔
        Utf8.Boundary (Utf8.encode text) 31) := by
  refine ⟨keepsText_iff ?_ hname, keepsText_iff ?_ hname⟩
  · unfold FakeClientManager.adoptSlot
    dsimp only
    rw [FakeClientManager.setSlot_slots_self]
  · unfold FakeClientManager.setSlotName FakeClientManager.modifySnapshot
    rw [FakeClientManager.setSlot_slots_self]

/-- A name of 32 bytes whose last character takes two. -/
def cutName : List Char := List.replicate 30 'a' ++ ['é']

/-- One more letter in front of it and the cut falls between characters. -/
theorem bounded_copies_keep_text_between :
    (freshManager.setSlotName 0 (some (Utf8.encode ('a' :: cutName)))).KeepsText 0
      ('a' :: cutName) :=
  (bounded_copies_keep_text freshManager 0 plainAdoption 3
    (some (Utf8.encode ('a' :: cutName))) ('a' :: cutName) (by decide +kernel)).2.mpr
    (by decide +kernel)

/-- What is stored of `cutName` ends in half a character, and reads as a replacement. -/
theorem bounded_copies_break_text :
    ¬ (freshManager.setSlotName 0 (some (Utf8.encode cutName))).KeepsText 0 cutName := by
  intro h
  have hshown : Utf8.decode ((freshManager.setSlotName 0
      (some (Utf8.encode cutName))).slots 0).snapshot.personaName =
      List.replicate 30 'a' ++ ['\uFFFD'] := by
    decide +kernel
  have hfirst := h.shown
  rw [hshown] at hfirst
  exact absurd hfirst (by decide +kernel)

end BotHider.Model
