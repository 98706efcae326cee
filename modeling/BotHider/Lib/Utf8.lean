import Mathlib.Data.List.TakeDrop

/-!
# UTF-8 texts and cuts through their bytes

`encode` writes a text, `decode` reads one back, and an ill-formed run of bytes comes out as
one replacement character. The first bytes of an encoded text are themselves an encoded text
exactly when the cut leaves no character in halves: when the byte behind it, if there is one,
starts a character (`valid_take_iff`).
-/

namespace Utf8

/-- The bytes of a text. -/
def encode (text : List Char) : List UInt8 := text.flatMap String.utf8EncodeChar

/-- The bytes are those of some text. -/
def Valid (bytes : List UInt8) : Prop := ∃ text, encode text = bytes

/-- The character that the first bytes encode, if they do. -/
def nextChar (bytes : List UInt8) : Option Char := bytes.toByteArray.utf8DecodeChar? 0

/-! ## Encoding -/

@[simp]
theorem encode_nil : encode [] = [] := rfl

@[simp]
theorem encode_cons (c : Char) (text : List Char) :
    encode (c :: text) = String.utf8EncodeChar c ++ encode text :=
  List.flatMap_cons

@[simp]
theorem encode_append (text more : List Char) :
    encode (text ++ more) = encode text ++ encode more :=
  List.flatMap_append

theorem toByteArray_encode (text : List Char) : (encode text).toByteArray = text.utf8Encode := rfl

@[simp]
theorem nextChar_encode (c : Char) (bytes : List UInt8) :
    nextChar (String.utf8EncodeChar c ++ bytes) = some c := by
  rw [nextChar, List.toByteArray_append, ByteArray.utf8DecodeChar?_utf8EncodeChar_append]

/-- A text whose bytes begin another's begins it. -/
theorem prefix_of_encode_append {text whole : List Char} {bytes : List UInt8}
    (h : encode text ++ bytes = encode whole) : text <+: whole := by
  refine List.isPrefix_of_utf8Encode_append_eq_utf8Encode bytes.toByteArray ?_
  rw [← toByteArray_encode, ← toByteArray_encode, ← List.toByteArray_append, h]

theorem length_encode_cons (c : Char) (text : List Char) :
    (encode (c :: text)).length = c.utf8Size + (encode text).length := by
  rw [encode_cons, List.length_append, String.length_utf8EncodeChar]

/-- Only the NUL character has a zero byte. -/
theorem eq_nul_of_zero_mem {c : Char} (h : 0 ∈ String.utf8EncodeChar c) : c.toNat = 0 := by
  have hzero : ∀ n : Nat, (0 : UInt8) = UInt8.ofNat n → n % 256 = 0 := fun n hn => by
    simpa using (congrArg UInt8.toNat hn).symm
  unfold String.utf8EncodeChar at h
  dsimp only at h
  split at h
  · rename_i hv
    have hn := hzero _ (List.mem_singleton.mp h)
    rw [Nat.mod_eq_of_lt (by omega)] at hn
    exact hn
  · split at h
    · simp only [List.mem_cons, List.not_mem_nil, or_false] at h
      rcases h with h | h <;> · have hn := hzero _ h; omega
    · split at h
      · simp only [List.mem_cons, List.not_mem_nil, or_false] at h
        rcases h with h | h | h <;> · have hn := hzero _ h; omega
      · simp only [List.mem_cons, List.not_mem_nil, or_false] at h
        rcases h with h | h | h | h <;> · have hn := hzero _ h; omega

theorem zero_notMem_encode {text : List Char} (h : ∀ c ∈ text, c.toNat ≠ 0) :
    (0 : UInt8) ∉ encode text := by
  intro hmem
  obtain ⟨c, hc, hzero⟩ := List.mem_flatMap.mp hmem
  exact h c hc (eq_nul_of_zero_mem hzero)

/-! ## Decoding -/

/-- What may follow a lead byte: the bounds of each further byte of its character. -/
def tails (lead : UInt8) : List (UInt8 × UInt8) :=
  if 0xC2 ≤ lead ∧ lead ≤ 0xDF then [(0x80, 0xBF)]
  else if lead = 0xE0 then [(0xA0, 0xBF), (0x80, 0xBF)]
  else if lead = 0xED then [(0x80, 0x9F), (0x80, 0xBF)]
  else if 0xE1 ≤ lead ∧ lead ≤ 0xEF then [(0x80, 0xBF), (0x80, 0xBF)]
  else if lead = 0xF0 then [(0x90, 0xBF), (0x80, 0xBF), (0x80, 0xBF)]
  else if 0xF1 ≤ lead ∧ lead ≤ 0xF3 then [(0x80, 0xBF), (0x80, 0xBF), (0x80, 0xBF)]
  else if lead = 0xF4 then [(0x80, 0x8F), (0x80, 0xBF), (0x80, 0xBF)]
  else []

/-- How many of the bytes stay within the bounds, one after the other. -/
def within : List (UInt8 × UInt8) → List UInt8 → Nat
  | (low, high) :: bounds, b :: bytes =>
    if low ≤ b ∧ b ≤ high then within bounds bytes + 1 else 0
  | _, _ => 0

/-- The length of an ill-formed run: a lead byte with what could have gone on with it. -/
def illFormed : List UInt8 → Nat
  | [] => 0
  | lead :: bytes => within (tails lead) bytes + 1

/-- The characters of the bytes, for as many rounds. -/
def decodeFor : Nat → List UInt8 → List Char
  | 0, _ => []
  | _ + 1, [] => []
  | rounds + 1, bytes =>
    match nextChar bytes with
    | some c => c :: decodeFor rounds (bytes.drop (String.utf8EncodeChar c).length)
    | none => '\uFFFD' :: decodeFor rounds (bytes.drop (illFormed bytes))

/-- The text that the bytes are read as. -/
def decode (bytes : List UInt8) : List Char := decodeFor bytes.length bytes

theorem decodeFor_encode (text : List Char) {rounds : Nat} (h : (encode text).length ≤ rounds) :
    decodeFor rounds (encode text) = text := by
  induction text generalizing rounds with
  | nil => cases rounds <;> rfl
  | cons c text ih =>
    have hpos : 0 < (String.utf8EncodeChar c).length :=
      List.length_pos_iff.mpr String.utf8EncodeChar_ne_nil
    rw [encode_cons, List.length_append] at h
    obtain ⟨rounds, rfl⟩ : ∃ n, rounds = n + 1 := ⟨rounds - 1, by omega⟩
    obtain ⟨b, bytes, hb⟩ := List.exists_cons_of_length_pos hpos
    rw [encode_cons, hb, List.cons_append, decodeFor.eq_3 _ _ (by simp), ← List.cons_append, ← hb,
      nextChar_encode]
    dsimp only
    rw [List.drop_left, ih (by omega)]

/-- **Round trip.** -/
theorem decode_encode (text : List Char) : decode (encode text) = text :=
  decodeFor_encode text (Nat.le_refl _)

/-! ## Cuts -/

/-- The byte behind the cut, if there is one, starts a character. -/
def Boundary (bytes : List UInt8) (n : Nat) : Prop :=
  ∀ b, bytes[n]? = some b → b.IsUTF8FirstByte

instance (bytes : List UInt8) (n : Nat) : Decidable (Boundary bytes n) :=
  match h : bytes[n]? with
  | none => isTrue fun b hb => by simp [h] at hb
  | some b =>
    decidable_of_iff b.IsUTF8FirstByte
      ⟨fun hfirst b' hb' => (Option.some.inj (h.symm.trans hb')) ▸ hfirst, fun hall => hall b h⟩

theorem boundary_zero (text : List Char) : Boundary (encode text) 0 := by
  cases text with
  | nil => exact fun b hb => nomatch hb
  | cons c text =>
    intro b hb
    have hpos : 0 < (String.utf8EncodeChar c).length :=
      List.length_pos_iff.mpr String.utf8EncodeChar_ne_nil
    rw [encode_cons, List.getElem?_append_left hpos, List.getElem?_eq_getElem hpos] at hb
    rw [← Option.some.inj hb]
    exact UInt8.isUTF8FirstByte_getElem_zero_utf8EncodeChar

theorem boundary_add {bytes more : List UInt8} {n : Nat} :
    Boundary (bytes ++ more) (bytes.length + n) ↔ Boundary more n := by
  unfold Boundary
  rw [List.getElem?_append_right (Nat.le_add_right _ _), Nat.add_sub_cancel_left]

/-- Cutting where a character starts leaves whole characters. -/
theorem Boundary.valid_take {text : List Char} {n : Nat} (h : Boundary (encode text) n) :
    Valid ((encode text).take n) := by
  induction text generalizing n with
  | nil => exact ⟨[], by simp⟩
  | cons c text ih =>
    rcases Nat.eq_zero_or_pos n with rfl | hpos
    · exact ⟨[], by simp⟩
    · rcases Nat.lt_or_ge n (String.utf8EncodeChar c).length with hlt | hge
      · -- inside the first character: the byte behind the cut continues it
        have hbyte := h (String.utf8EncodeChar c)[n]
          (by rw [encode_cons, List.getElem?_append_left hlt, List.getElem?_eq_getElem hlt])
        rw [UInt8.isUTF8FirstByte_getElem_utf8EncodeChar] at hbyte
        omega
      · obtain ⟨m, rfl⟩ := Nat.exists_eq_add_of_le hge
        rw [encode_cons, boundary_add] at h
        obtain ⟨head, hhead⟩ := ih h
        exact ⟨c :: head, by rw [encode_cons, encode_cons, List.take_length_add_append, hhead]⟩

/-- **Cuts.** The bytes up to a cut are a text's exactly when the cut is at a boundary. -/
theorem valid_take_iff {text : List Char} {n : Nat} :
    Valid ((encode text).take n) ↔ Boundary (encode text) n := by
  refine ⟨?_, Boundary.valid_take⟩
  rintro ⟨head, hhead⟩
  obtain ⟨rest, rfl⟩ : head <+: text :=
    prefix_of_encode_append (by rw [hhead, List.take_append_drop])
  intro b hb
  have hlen : n < (encode (head ++ rest)).length := (List.getElem?_eq_some_iff.mp hb).1
  have hn : n = (encode head).length + 0 := by
    rw [hhead, List.length_take]
    omega
  rw [encode_append] at hb
  subst hn
  exact boundary_add.mpr (boundary_zero rest) b hb

/-- A text's bytes up to a boundary are read as its first characters. -/
theorem Boundary.decode_take {text : List Char} {n : Nat} (h : Boundary (encode text) n) :
    decode ((encode text).take n) <+: text := by
  obtain ⟨head, hhead⟩ := h.valid_take
  rw [← hhead, decode_encode]
  exact prefix_of_encode_append (by rw [hhead, List.take_append_drop])

/-- Half a two-byte character, and half a four-byte one, are each read as one replacement. -/
example : decode [0x61, 0xC3] = ['a', '\uFFFD'] ∧
    decode [0xF0, 0x9F, 0x98, 0x62] = ['\uFFFD', 'b'] := by decide +kernel

end Utf8
