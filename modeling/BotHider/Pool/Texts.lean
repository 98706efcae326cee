import BotHider.Ping.Meter
import BotHider.Pool.Picks

/-!
# BotHider — configured text reaches the managed client

A pool entry's text goes through `AdoptSlot`'s bounded copies into the slot's buffers, and the
managed client reads it back with capacities of its own. The loader's checks leave room for
every entry (`Fits`), so nothing is cut on the way.
-/

namespace BotHider.Model

/-! ## Reading a slot -/

/-- `ReadText`: the bytes before the first NUL, or the whole buffer. -/
def readText (text : Bytes) (capacity : Nat) : Bytes :=
  let bytes := text.take capacity
  match bytes.idxOf? 0 with
  | none => bytes
  | some last => bytes.take last

namespace SlotSnapshot

/-- `SlotSnapshot.PersonaName`. -/
def personaName (s : SlotSnapshot) : Bytes := readText s.name.bytes 32

/-- `SlotSnapshot.CrosshairCode`. -/
def crosshairCode (s : SlotSnapshot) : Bytes := readText s.crosshair.bytes 64

/-- `SlotSnapshot.Clan`. -/
def clan (s : SlotSnapshot) : Bytes × UInt32 := (readText s.clanTag.bytes 128, s.clanGroupId)

end SlotSnapshot

/-- What the reader sees is the C string in the buffer. -/
theorem readText_eq (text : Bytes) (capacity : Nat) :
    readText text capacity = cstr (text.take capacity) := by
  unfold readText cstr
  dsimp only
  generalize text.take capacity = bytes
  induction bytes with
  | nil => rfl
  | cons b bytes ih =>
    by_cases hb : b = 0
    · subst hb
      rfl
    · rw [List.idxOf?_cons, if_neg (by simpa using hb), List.takeWhile_cons_of_pos (by simpa using hb),
        ← ih]
      cases bytes.idxOf? 0 <;> rfl

/-- Read over its whole length, a buffer gives its text. -/
theorem readText_full {n : Nat} (buf : CharBuf n) : readText buf.bytes n = buf.text := by
  rw [readText_eq, List.take_of_length_le (Nat.le_of_eq buf.size)]
  rfl

/-- **No cut.** A text without NUL that leaves room for the terminator survives the copy. -/
theorem readText_copyText {n : Nat} {text : Bytes} (hlen : text.length < n)
    (hnul : (0 : UInt8) ∉ text) : readText (copyText n (some text)).bytes n = text := by
  rw [readText_full, text_copyText, Option.getD_some, cstr_of_notMem hnul,
    List.take_of_length_le (by omega)]

/-! ## What the loader leaves room for -/

/-- The entry's texts fit the bridge's buffers. -/
structure BotEntry.Fits (e : BotEntry) : Prop where
  name : e.name.length < kNameLen ∧ (0 : UInt8) ∉ e.name
  crosshair : e.crosshairCode.length < kCrosshairLen ∧ (0 : UInt8) ∉ e.crosshairCode
  clanTag : e.clanTag.tag.length < kClanTagLen ∧ (0 : UInt8) ∉ e.clanTag.tag

theorem fits_parseClanTag (val : Json) :
    (parseClanTag val).tag.length < kClanTagLen ∧ (0 : UInt8) ∉ (parseClanTag val).tag := by
  have hempty : ([] : Bytes).length < kClanTagLen ∧ (0 : UInt8) ∉ ([] : Bytes) := by decide
  have hlen : kClanTagLen = 128 := rfl
  unfold parseClanTag
  split
  · split
    · exact hempty
    · rename_i hok
      simp only [not_or, Nat.not_le] at hok
      exact ⟨hok.2.1, hok.2.2.1⟩
  · exact hempty

/-- A valid member describes an entry that fits. -/
theorem Describes.fits {key : String} {val : Json} {e : BotEntry} (hv : ValidMember key val)
    (hd : Describes key val e) : e.Fits := by
  have hlen : kNameLen = 32 := rfl
  refine ⟨?_, ?_, hd.clanTag ▸ fits_parseClanTag val⟩
  · obtain ⟨name, hname, -, hshort, -, hcontrol⟩ := hv.name
    obtain rfl : name = e.name := by simpa [hname] using hd.name
    exact ⟨by omega, fun h => hcontrol 0 h (Or.inl (by decide))⟩
  · have hempty : ([] : Bytes).length < kCrosshairLen ∧ (0 : UInt8) ∉ ([] : Bytes) := by decide
    rw [hd.crosshair]
    split
    · rename_i code hcode
      obtain ⟨hshort, hnul⟩ := hv.crosshair code hcode
      have hlen : kCrosshairLen = 64 := rfl
      split
      · exact hempty
      · exact ⟨by omega, hnul⟩
    · exact hempty

/-- Every entry of a loaded pool fits. -/
theorem fits_load {document : Option Json} {now : UInt64} {e : BotEntry}
    (he : e ∈ (BotInfoStore.load document now).1.entries) : e.Fits := by
  obtain ⟨m, -, hvalid, hd⟩ := exists_of_mem_pool he
  exact hd.fits hvalid

/-! ## From the document to the managed client -/

/-- What `AdoptClient` passes for an entry that keeps its own name. -/
def BotEntry.adoption (e : BotEntry) : FakeClientManager.Adoption where
  name := some e.name
  steamId64 := e.steamId64
  crosshairCode := e.crosshairCode
  scoreboardFlair := e.scoreboardFlair
  clanTag := e.clanTag.tag
  clanGroupId := e.clanTag.groupId

/-- **Texts.** Whatever document was loaded, what the managed client reads of a slot adopted
with an entry is the entry's name, crosshair code and clan, and the numbers are the entry's. -/
theorem configured_text_survives (document : Option Json) (now : UInt64) (e : BotEntry)
    (he : e ∈ (BotInfoStore.load document now).1.entries) (m : FakeClientManager) (slot : Slot)
    (clock : UInt64) :
    let s := ((m.adoptSlot slot e.adoption clock).slots slot).snapshot
    s.personaName = e.name ∧ s.crosshairCode = e.crosshairCode ∧
      s.clan = (e.clanTag.tag, e.clanTag.groupId) ∧
      s.scoreboardFlair = e.scoreboardFlair ∧ s.steamId = e.steamId64 ∧
      s.baseSteamId = e.steamId64 := by
  have hfits := fits_load he
  have hslot : ((m.adoptSlot slot e.adoption clock).slots slot).snapshot =
      { ((m.adoptSlot slot e.adoption clock).slots slot).snapshot with
        name := copyText _ (some e.name)
        crosshair := copyText _ (some e.crosshairCode)
        clanTag := copyText _ (some e.clanTag.tag)
        clanGroupId := e.clanTag.groupId
        scoreboardFlair := e.scoreboardFlair
        steamId := e.steamId64
        baseSteamId := e.steamId64 } := by
    unfold FakeClientManager.adoptSlot
    dsimp only
    rw [FakeClientManager.setSlot_slots_self]
    rfl
  dsimp only
  rw [hslot]
  refine ⟨readText_copyText hfits.name.1 hfits.name.2,
    readText_copyText hfits.crosshair.1 hfits.crosshair.2, ?_, rfl, rfl, rfl⟩
  exact congrArg (·, e.clanTag.groupId) (readText_copyText hfits.clanTag.1 hfits.clanTag.2)

/-- One player whose texts are as long as the loader admits. -/
def longTexts : Json :=
  .obj [("players", .obj [("7", .obj
    [("player_name", .str (List.replicate 31 0x41)),
      ("crosshair_code", .str (List.replicate 63 0x42)),
      ("clan_tag", .str (List.replicate 127 0x43)), ("clan_group_id", .unsigned 9)])])]

theorem configured_text_survives_long : ∃ e : BotEntry,
    e.name = List.replicate 31 0x41 ∧ e.clanTag.tag = List.replicate 127 0x43 ∧
      ((freshManager.adoptSlot 0 e.adoption 3).slots 0).snapshot.personaName = e.name := by
  obtain ⟨e, he, hname, htag⟩ : ∃ e ∈ (BotInfoStore.load (some longTexts) 0).1.entries,
      e.name = List.replicate 31 0x41 ∧ e.clanTag.tag = List.replicate 127 0x43 :=
    ⟨_, List.mem_singleton.mpr rfl, by decide +kernel, by decide +kernel⟩
  exact ⟨e, hname, htag, (configured_text_survives (some longTexts) 0 e he freshManager 0 3).1⟩

end BotHider.Model
