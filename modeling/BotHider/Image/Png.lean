import BotHider.Lib.Chunks
import BotHider.Model.Exports

/-!
# BotHider — what the image scan accepts

`HasPngStructure` walks the chunks of a file with unsigned arithmetic on sizes the caller
chose. `inspectPng` is the same scan with every read and every unsigned operation checked; it
never fails, and it agrees with the scan the calls use.

Main results:

* `inspectPng_eq` — no read outside the data, no wrap, no round missing.
* `trails_append_iff` — the grammar behind the header, chunk by chunk.
* `hasPngStructure_iff` — the scan accepts exactly the encodings of a `PngFile`.
-/

namespace BotHider.Model

open Chunks

/-! ## The scan with its checks -/

/-- What the scan must not do: read outside the data, wrap an unsigned value, or run on. -/
inductive ScanFault
  | overRead
  | wrapped
  | unfinished

/-- Reads the `n` bytes at `data + i`. -/
def inspect (data : Bytes) (i n : Nat) : Except ScanFault Bytes :=
  if i + n ≤ data.length then .ok ((data.drop i).take n) else .error .overRead

/-- An unsigned difference. -/
def difference (a b : Nat) : Except ScanFault Nat :=
  if b ≤ a then .ok (a - b) else .error .wrapped

/-- An unsigned sum of the given width. -/
def sum (width a b : Nat) : Except ScanFault Nat :=
  if a + b < 2 ^ width then .ok (a + b) else .error .wrapped

/-- The rules for the first chunk: the header, of size 13, with nonzero dimensions. -/
def inspectHeader (data : Bytes) (offset size : Nat) (isHeader : Bool) :
    Except ScanFault Bool := do
  if !isHeader || size != 13 then pure false
  else
    let width ← inspect data (offset + 8) 4
    if bigEndian width = 0 then pure false
    else
      let height ← inspect data (offset + 12) 4
      pure (bigEndian height != 0)

/-- The rules for a chunk's place: the header comes first and only there. -/
def inspectPlace (data : Bytes) (offset size : Nat) (isHeader : Bool) : Except ScanFault Bool :=
  if offset = pngSignature.length then inspectHeader data offset size isHeader else .ok !isHeader

/-- The chunk loop of `HasPngStructure`, with its reads and its arithmetic checked. -/
def inspectChunks (data : Bytes) : Nat → Nat → Bool → Except ScanFault Bool
  | 0, _, _ => .error .unfinished
  | rounds + 1, offset, hasImageData => do
    let left ← difference data.length offset
    if left < 12 then pure false
    else
      let word ← inspect data offset 4
      let size := bigEndian word
      let room ← difference left 12
      if size > room then pure false
      else
        let name ← inspect data (offset + 4) 4
        let inPlace ← inspectPlace data offset size (name == ascii "IHDR")
        if !inPlace then pure false
        else
          let name ← inspect data (offset + 4) 4
          let hasImageData := hasImageData || (name == ascii "IDAT" && size != 0)
          let step ← sum 32 size 12
          let next ← sum 64 offset step
          let name ← inspect data (offset + 4) 4
          if name == ascii "IEND" then pure (hasImageData && size == 0 && next == data.length)
          else inspectChunks data rounds next hasImageData

/-- `HasPngStructure` with its reads and its arithmetic checked. -/
def inspectPng (data : Bytes) (rounds : Nat) : Except ScanFault Bool := do
  if data.length < pngSignature.length then pure false
  else
    let front ← inspect data 0 pngSignature.length
    if front != pngSignature then pure false
    else inspectChunks data rounds pngSignature.length false

/-! ## The checks never fail -/

variable {data : Bytes}

theorem read32_eq (p : Bytes) : read32 p = bigEndian (p.take 4) := rfl

theorem inspect_of_le {i n : Nat} (h : i + n ≤ data.length) :
    inspect data i n = .ok ((data.drop i).take n) := if_pos h

theorem difference_of_le {a b : Nat} (h : b ≤ a) : difference a b = .ok (a - b) := if_pos h

theorem sum_of_lt {width a b : Nat} (h : a + b < 2 ^ width) : sum width a b = .ok (a + b) :=
  if_pos h

theorem inspectHeader_eq {offset size : Nat} {isHeader : Bool}
    (hroom : size + 12 ≤ data.length - offset) :
    inspectHeader data offset size isHeader =
      .ok (isHeader && size == 13 && read32 ((data.drop offset).drop 8) != 0 &&
        read32 ((data.drop offset).drop 12) != 0) := by
  unfold inspectHeader
  by_cases h : isHeader = true ∧ size = 13
  · obtain ⟨rfl, rfl⟩ := h
    simp only [read32_eq, List.drop_drop]
    rw [inspect_of_le (by omega), inspect_of_le (by omega)]
    by_cases hw : bigEndian ((data.drop (offset + 8)).take 4) = 0
    · simp [hw, pure, Except.pure, bind, Except.bind]
    · simp [hw, pure, Except.pure, bind, Except.bind]
  · have hfalse : (isHeader && size == 13) = false := by
      simpa using h
    rw [if_pos (by simpa [imp_iff_not_or] using h), hfalse]
    rfl

/-- The rules of the scan for the chunk at `offset`, of the given type and size. -/
def InPlace (data : Bytes) (offset size : Nat) (type : Bytes) : Prop :=
  if offset = pngSignature.length then
    type = ascii "IHDR" ∧ size = 13 ∧ read32 ((data.drop offset).drop 8) ≠ 0 ∧
      read32 ((data.drop offset).drop 12) ≠ 0
  else type ≠ ascii "IHDR"

instance (data : Bytes) (offset size : Nat) (type : Bytes) :
    Decidable (InPlace data offset size type) := by
  unfold InPlace
  infer_instance

theorem inspectPlace_eq {offset size : Nat} {type : Bytes}
    (hroom : size + 12 ≤ data.length - offset) :
    inspectPlace data offset size (type == ascii "IHDR") =
      .ok (decide (InPlace data offset size type)) := by
  unfold inspectPlace InPlace
  by_cases h : offset = pngSignature.length
  · rw [if_pos h, inspectHeader_eq hroom]
    simp only [if_pos h, bne, Bool.decide_and, decide_not, Bool.and_assoc, beq_eq_decide]
  · simp only [if_neg h, decide_not, beq_eq_decide]

/-- The two branches of the scan that turn a chunk down for its place. -/
theorem inPlace_iff {offset size : Nat} {type : Bytes} :
    InPlace data offset size type ↔
      ¬ (offset = pngSignature.length ∧ (type ≠ ascii "IHDR" ∨ size ≠ 13 ∨
        read32 ((data.drop offset).drop 8) = 0 ∨ read32 ((data.drop offset).drop 12) = 0)) ∧
      ¬ (offset ≠ pngSignature.length ∧ type = ascii "IHDR") := by
  unfold InPlace
  split <;> rename_i h
  · simp only [h, true_and, ne_eq, not_true_eq_false, false_and, not_false_eq_true, and_true,
      not_or, not_not]
  · simp only [h, false_and, not_false_eq_true, true_and, ne_eq]

theorem inPlace_of_ne {offset size : Nat} {type : Bytes} (h : offset ≠ pngSignature.length) :
    InPlace data offset size type ↔ type ≠ ascii "IHDR" := by
  unfold InPlace
  rw [if_neg h]

/-! ## One round -/

/-- The rest of a round: what the chunk says, and the scan of what follows it. -/
def scanRest (data : Bytes) (fuel offset : Nat) (hasImageData : Bool) : Bool :=
  let size := read32 (data.drop offset)
  let type := ((data.drop offset).drop 4).take 4
  let next := offset + (size + 12)
  let seen := hasImageData || (type = ascii "IDAT" ∧ size ≠ 0)
  if type = ascii "IEND" then seen && (size = 0 ∧ next = data.length)
  else scanChunks data fuel next seen

/-- A round of the scan, when the chunk's size fits. -/
theorem scanChunks_succ {fuel offset : Nat} {hasImageData : Bool}
    (hlen : data.length ≤ kAvatarMaxBytes) (h12 : 12 ≤ data.length - offset)
    (hroom : read32 (data.drop offset) ≤ data.length - offset - 12) :
    scanChunks data (fuel + 1) offset hasImageData =
      (decide (InPlace data offset (read32 (data.drop offset))
        (((data.drop offset).drop 4).take 4)) && scanRest data fuel offset hasImageData) := by
  have hbound : data.length ≤ 16384 := hlen
  have hwrap : read32 (data.drop offset) + 12 < 2 ^ 32 := by omega
  rw [scanChunks, if_neg (by omega)]
  dsimp only
  rw [if_neg (by omega), Nat.mod_eq_of_lt hwrap]
  unfold scanRest
  by_cases hplace : InPlace data offset (read32 (data.drop offset))
    (((data.drop offset).drop 4).take 4)
  · obtain ⟨hfirst, hlater⟩ := inPlace_iff.mp hplace
    rw [decide_eq_true hplace, if_neg hfirst, if_neg hlater, Bool.true_and]
  · rw [decide_eq_false hplace, Bool.false_and]
    rw [inPlace_iff, not_and_or, not_not, not_not] at hplace
    split
    · rfl
    · rename_i hfirst
      rw [if_pos (hplace.resolve_left hfirst)]

/-- The same round of the checked scan. -/
theorem inspectChunks_succ {rounds fuel offset : Nat} {hasImageData : Bool}
    (hlen : data.length ≤ kAvatarMaxBytes) (h12 : 12 ≤ data.length - offset)
    (hroom : read32 (data.drop offset) ≤ data.length - offset - 12)
    (hrest : ∀ seen, inspectChunks data rounds (offset + (read32 (data.drop offset) + 12)) seen =
      .ok (scanChunks data fuel (offset + (read32 (data.drop offset) + 12)) seen)) :
    inspectChunks data (rounds + 1) offset hasImageData =
      .ok (decide (InPlace data offset (read32 (data.drop offset))
        (((data.drop offset).drop 4).take 4)) && scanRest data fuel offset hasImageData) := by
  have hbound : data.length ≤ 16384 := hlen
  have hfits : ¬ bigEndian ((data.drop offset).take 4) > data.length - offset - 12 :=
    Nat.not_lt.mpr hroom
  rw [inspectChunks, difference_of_le (by omega)]
  simp only [bind, Except.bind, pure, Except.pure]
  rw [if_neg (by omega), inspect_of_le (by omega), difference_of_le (by omega)]
  dsimp only
  rw [if_neg hfits, inspect_of_le (by omega)]
  simp only [← read32_eq]
  rw [inspectPlace_eq (by omega), sum_of_lt (by omega)]
  simp only [sum_of_lt (show offset + (read32 (data.drop offset) + 12) < 2 ^ 64 by omega), hrest]
  unfold scanRest
  simp only [List.drop_drop]
  by_cases hplace : InPlace data offset (read32 (data.drop offset)) ((data.drop (offset + 4)).take 4)
  · simp only [hplace, decide_true, Bool.not_true, Bool.false_eq_true, if_false, Bool.true_and]
    by_cases hend : (data.drop (offset + 4)).take 4 = ascii "IEND"
    · simp [hend, Bool.and_assoc, bne, beq_eq_decide, Bool.decide_and]
    · simp [hend, bne, beq_eq_decide, Bool.decide_and]
  · simp [hplace]

/-- **No fault.** With a round for every byte left, the checked scan ends, reads inside the
data and wraps nothing, and comes to the same as the scan. -/
theorem inspectChunks_eq (hlen : data.length ≤ kAvatarMaxBytes) {rounds fuel offset : Nat}
    (hrounds : data.length - offset < rounds) (hfuel : data.length - offset < fuel)
    (hoffset : offset ≤ data.length) (hasImageData : Bool) :
    inspectChunks data rounds offset hasImageData =
      .ok (scanChunks data fuel offset hasImageData) := by
  -- a round moves the offset by at least the 12 bytes around a chunk's data
  induction rounds generalizing fuel offset hasImageData with
  | zero => omega
  | succ rounds ih =>
    obtain ⟨fuel, rfl⟩ := Nat.exists_eq_add_one_of_ne_zero (Nat.ne_of_gt (Nat.zero_lt_of_lt hfuel))
    by_cases h12 : data.length - offset < 12
    · rw [inspectChunks, scanChunks, difference_of_le hoffset, if_pos h12]
      simp only [bind, Except.bind, pure, Except.pure]
      rw [if_pos h12]
    by_cases hroom : read32 (data.drop offset) > data.length - offset - 12
    · rw [inspectChunks, scanChunks, difference_of_le hoffset, if_neg h12, if_pos hroom]
      simp only [bind, Except.bind, pure, Except.pure]
      rw [if_neg h12, inspect_of_le (by omega), difference_of_le (by omega)]
      exact if_pos hroom
    · rw [scanChunks_succ hlen (by omega) (by omega)]
      refine inspectChunks_succ hlen (by omega) (by omega) fun seen => ?_
      exact ih (by omega) (by omega) (by omega) seen

/-! ## The grammar -/

/-- A PNG file as a sequence of chunks. -/
structure PngFile where
  header : Chunk
  middle : List Chunk
  trailer : Chunk
  header_type : header.type = ascii "IHDR"
  header_size : header.data.length = 13
  width_ne_zero : bigEndian (header.data.take 4) ≠ 0
  height_ne_zero : bigEndian ((header.data.drop 4).take 4) ≠ 0
  middle_type : ∀ c ∈ middle, c.type ≠ ascii "IHDR" ∧ c.type ≠ ascii "IEND"
  image_data : ∃ c ∈ middle, c.type = ascii "IDAT" ∧ c.data ≠ []
  trailer_type : trailer.type = ascii "IEND"
  trailer_size : trailer.data = []

/-- The bytes of a file. -/
def PngFile.encode (f : PngFile) : Bytes :=
  pngSignature ++ (f.header.encode ++ (f.middle.flatMap Chunk.encode ++ f.trailer.encode))

/-- What may follow the header; `seen` says that image data came before. -/
def Trails (seen : Bool) (s : Bytes) : Prop :=
  ∃ (middle : List Chunk) (trailer : Chunk),
    s = middle.flatMap Chunk.encode ++ trailer.encode ∧
    (∀ c ∈ middle, c.type ≠ ascii "IHDR" ∧ c.type ≠ ascii "IEND") ∧
    trailer.type = ascii "IEND" ∧ trailer.data = [] ∧
    (seen = true ∨ ∃ c ∈ middle, c.type = ascii "IDAT" ∧ c.data ≠ [])

/-- The bytes after the header start with a chunk. -/
theorem Trails.exists_chunk {seen : Bool} {s : Bytes} (h : Trails seen s) :
    ∃ (c : Chunk) (rest : Bytes), s = c.encode ++ rest := by
  obtain ⟨middle, trailer, rfl, -⟩ := h
  cases middle with
  | nil => exact ⟨trailer, [], (List.append_nil _).symm⟩
  | cons c middle =>
    refine ⟨c, middle.flatMap Chunk.encode ++ trailer.encode, ?_⟩
    rw [List.flatMap_cons, List.append_assoc]

/-- **Chunk by chunk.** The first chunk is the trailer, with nothing behind it, or a chunk of
the middle, with what may follow it behind it. -/
theorem trails_append_iff {seen : Bool} {c : Chunk} {rest : Bytes} :
    Trails seen (c.encode ++ rest) ↔
      c.type ≠ ascii "IHDR" ∧
        if c.type = ascii "IEND" then seen = true ∧ c.data = [] ∧ rest = []
        else Trails (seen || (c.type = ascii "IDAT" ∧ c.data ≠ [])) rest := by
  have hne : ascii "IEND" ≠ ascii "IHDR" := by decide
  constructor
  · rintro ⟨middle, trailer, hs, htypes, htrailer, hempty, hseen⟩
    cases middle with
    | nil =>
      obtain ⟨rfl, rfl⟩ := Chunk.encode_inj (hs.trans (List.append_nil _).symm)
      have hseen : seen = true := hseen.resolve_right (by simp)
      exact ⟨htrailer ▸ hne, by rw [if_pos htrailer]; exact ⟨hseen, hempty, rfl⟩⟩
    | cons c' middle =>
      rw [List.flatMap_cons, List.append_assoc] at hs
      obtain ⟨rfl, rfl⟩ := Chunk.encode_inj hs
      obtain ⟨⟨hheader, hend⟩, htypes⟩ := List.forall_mem_cons.mp htypes
      refine ⟨hheader, ?_⟩
      rw [if_neg hend]
      refine ⟨middle, trailer, rfl, htypes, htrailer, hempty, ?_⟩
      rw [List.exists_mem_cons_iff] at hseen
      rcases hseen with h | h | h
      · exact Or.inl (by rw [h, Bool.true_or])
      · exact Or.inl (by rw [decide_eq_true h, Bool.or_true])
      · exact Or.inr h
  · rintro ⟨hheader, h⟩
    split at h
    · rename_i hend
      obtain ⟨hseen, hempty, rfl⟩ := h
      exact ⟨[], c, List.append_nil _, by simp, hend, hempty, Or.inl hseen⟩
    · rename_i hend
      obtain ⟨middle, trailer, rfl, htypes, htrailer, hempty, hseen⟩ := h
      refine ⟨c :: middle, trailer, ?_, List.forall_mem_cons.mpr ⟨⟨hheader, hend⟩, htypes⟩,
        htrailer, hempty, ?_⟩
      · rw [List.flatMap_cons, List.append_assoc]
      · rw [List.exists_mem_cons_iff]
        rcases hseen with h | h
        · rcases Bool.or_eq_true_iff.mp h with h | h
          · exact Or.inl h
          · exact Or.inr (Or.inl (of_decide_eq_true h))
        · exact Or.inr (Or.inr h)

/-! ## The scan accepts the grammar -/

/-- The scan of a chunk's bytes, in the chunk's own terms. -/
theorem scanChunks_chunk (hlen : data.length ≤ kAvatarMaxBytes) {fuel offset : Nat} {seen : Bool}
    {c : Chunk} {rest : Bytes} (hs : data.drop offset = c.encode ++ rest) :
    scanChunks data (fuel + 1) offset seen =
      (decide (InPlace data offset c.data.length c.type) &&
        let seen := seen || (c.type = ascii "IDAT" ∧ c.data.length ≠ 0)
        let next := offset + (c.data.length + 12)
        if c.type = ascii "IEND" then seen && (c.data.length = 0 ∧ next = data.length)
        else scanChunks data fuel next seen) := by
  obtain ⟨h12, hsize, hroom⟩ := c.size_le rest
  rw [← hs, List.length_drop] at h12 hroom
  rw [scanChunks_succ hlen h12 (by rw [read32_eq]; exact hroom)]
  unfold scanRest
  rw [read32_eq, hs, hsize, c.take_drop_four]

/-- Bytes that do not start with a chunk are turned down. -/
theorem scanChunks_of_not_chunk {fuel offset : Nat} {seen : Bool}
    (h : ¬ ∃ (c : Chunk) (rest : Bytes), data.drop offset = c.encode ++ rest) :
    scanChunks data fuel offset seen = false := by
  cases fuel with
  | zero => rfl
  | succ fuel =>
    rw [scanChunks]
    split
    · rfl
    · rename_i h12
      dsimp only
      split
      · rfl
      · rename_i hroom
        refine absurd (exists_chunk ?_ ?_) h
        · rw [List.length_drop]
          omega
        · rw [List.length_drop]
          exact Nat.not_lt.mp hroom

/-- **Induction over the chunks.** From the second chunk on the scan accepts exactly what may
follow a header. -/
theorem scanChunks_eq_true_iff (hlen : data.length ≤ kAvatarMaxBytes) {fuel offset : Nat}
    (hfuel : data.length - offset < fuel) (hlater : pngSignature.length < offset) (seen : Bool) :
    scanChunks data fuel offset seen = true ↔ Trails seen (data.drop offset) := by
  induction fuel generalizing offset seen with
  | zero => omega
  | succ fuel ih =>
    by_cases hchunk : ∃ (c : Chunk) (rest : Bytes), data.drop offset = c.encode ++ rest
    · obtain ⟨c, rest, hs⟩ := hchunk
      have hdrop : data.drop (offset + (c.data.length + 12)) = rest := by
        rw [← List.drop_drop, hs, c.drop_encode]
      have hlength : data.length - offset = c.data.length + 12 + rest.length := by
        rw [← List.length_drop, hs, List.length_append, c.length_encode]
      rw [scanChunks_chunk hlen hs, hs, trails_append_iff]
      rw [Bool.and_eq_true, decide_eq_true_iff, inPlace_of_ne (Nat.ne_of_gt hlater)]
      refine and_congr_right fun _ => ?_
      dsimp only
      split
      · rename_i hend
        have hnot : ¬ (c.type = ascii "IDAT" ∧ c.data.length ≠ 0) := fun h =>
          absurd (hend.symm.trans h.1) (by decide)
        have hnext : offset + (c.data.length + 12) = data.length ↔ rest = [] := by
          rw [← List.length_eq_zero_iff]
          omega
        rw [decide_eq_false hnot, Bool.or_false, Bool.and_eq_true, decide_eq_true_iff, hnext,
          List.length_eq_zero_iff]
      · simp only [← List.length_eq_zero_iff, ne_eq]
        rw [← hdrop]
        exact ih (by omega) (by omega) _
    · rw [scanChunks_of_not_chunk hchunk]
      exact ⟨fun h => absurd h Bool.false_ne_true, fun h => absurd h.exists_chunk hchunk⟩

/-- A file is its signature, its header and what may follow a header. -/
theorem exists_pngFile_iff : (∃ f : PngFile, data = f.encode) ↔
    data.take pngSignature.length = pngSignature ∧
      ∃ (header : Chunk) (rest : Bytes),
        data.drop pngSignature.length = header.encode ++ rest ∧
        header.type = ascii "IHDR" ∧ header.data.length = 13 ∧
        bigEndian (header.data.take 4) ≠ 0 ∧ bigEndian ((header.data.drop 4).take 4) ≠ 0 ∧
        Trails false rest := by
  constructor
  · rintro ⟨f, rfl⟩
    unfold PngFile.encode
    refine ⟨List.take_left' rfl, f.header, _, List.drop_left' rfl, f.header_type, f.header_size,
      f.width_ne_zero, f.height_ne_zero, f.middle, f.trailer, rfl, f.middle_type, f.trailer_type,
      f.trailer_size, Or.inr f.image_data⟩
  · rintro ⟨hsig, header, rest, hdrop, htype, hsize, hwidth, hheight, middle, trailer, rfl,
      hmiddle, htrailer, hempty, himage⟩
    refine ⟨⟨header, middle, trailer, htype, hsize, hwidth, hheight, hmiddle,
      himage.resolve_left Bool.false_ne_true, htrailer, hempty⟩, ?_⟩
    unfold PngFile.encode
    dsimp only
    rw [← hdrop]
    exact (congrArg (· ++ _) hsig ▸ (List.take_append_drop _ data).symm : _)

/-- The place of the first chunk, in the chunk's own terms. -/
theorem inPlace_first_iff {c : Chunk} {rest : Bytes}
    (hs : data.drop pngSignature.length = c.encode ++ rest) :
    InPlace data pngSignature.length c.data.length c.type ↔
      c.type = ascii "IHDR" ∧ c.data.length = 13 ∧ bigEndian (c.data.take 4) ≠ 0 ∧
        bigEndian ((c.data.drop 4).take 4) ≠ 0 := by
  unfold InPlace
  rw [if_pos rfl, hs]
  refine and_congr_right fun _ => and_congr_right fun h13 => ?_
  have hwidth : read32 ((c.encode ++ rest).drop 8) = bigEndian (c.data.take 4) := by
    rw [read32_eq, c.drop_eight, List.take_append_of_le_length (by omega)]
  have hheight : read32 ((c.encode ++ rest).drop 12) = bigEndian ((c.data.drop 4).take 4) := by
    rw [read32_eq, show 12 = 8 + 4 from rfl, ← List.drop_drop, c.drop_eight,
      List.drop_append_of_le_length (by omega),
      List.take_append_of_le_length (by rw [List.length_drop]; omega)]
  rw [hwidth, hheight]

/-- The whole scan of a file that starts with the signature and a chunk. -/
theorem scanChunks_first_iff (hlen : data.length ≤ kAvatarMaxBytes) {c : Chunk} {rest : Bytes}
    (hs : data.drop pngSignature.length = c.encode ++ rest) :
    scanChunks data data.length pngSignature.length false = true ↔
      c.type = ascii "IHDR" ∧ c.data.length = 13 ∧ bigEndian (c.data.take 4) ≠ 0 ∧
        bigEndian ((c.data.drop 4).take 4) ≠ 0 ∧ Trails false rest := by
  have hlength : data.length - pngSignature.length = c.data.length + 12 + rest.length := by
    rw [← List.length_drop, hs, List.length_append, c.length_encode]
  have hdrop : data.drop (pngSignature.length + (c.data.length + 12)) = rest := by
    rw [← List.drop_drop, hs, c.drop_encode]
  obtain ⟨fuel, hfuel⟩ : ∃ fuel, data.length = fuel + 1 := ⟨data.length - 1, by omega⟩
  rw [hfuel, scanChunks_chunk hlen hs, Bool.and_eq_true, decide_eq_true_iff, inPlace_first_iff hs]
  dsimp only
  simp only [and_assoc]
  refine and_congr_right fun hheader => and_congr_right fun _ => and_congr_right fun _ =>
    and_congr_right fun _ => ?_
  have hend : c.type ≠ ascii "IEND" := hheader ▸ by decide
  have hidat : ¬ (c.type = ascii "IDAT" ∧ c.data.length ≠ 0) := fun h =>
    absurd (hheader.symm.trans h.1) (by decide)
  have h8 : pngSignature.length = 8 := rfl
  rw [if_neg hend, decide_eq_false hidat, ← hdrop]
  exact scanChunks_eq_true_iff hlen (by omega) (by omega) false

/-- **Grammar.** The scan accepts the encodings of files, and nothing else. -/
theorem hasPngStructure_iff (hlen : data.length ≤ kAvatarMaxBytes) :
    hasPngStructure (some data) = true ↔ ∃ f : PngFile, data = f.encode := by
  rw [exists_pngFile_iff]
  unfold hasPngStructure
  dsimp only
  by_cases hsig : data.take pngSignature.length = pngSignature
  · rw [if_neg (not_not.mpr hsig)]
    by_cases hchunk : ∃ (c : Chunk) (rest : Bytes),
        data.drop pngSignature.length = c.encode ++ rest
    · obtain ⟨c, rest, hs⟩ := hchunk
      rw [scanChunks_first_iff hlen hs]
      refine ⟨fun h => ⟨hsig, c, rest, hs, h⟩, fun ⟨_, header, rest', hs', h⟩ => ?_⟩
      obtain ⟨rfl, rfl⟩ := Chunk.encode_inj (hs.symm.trans hs')
      exact h
    · rw [scanChunks_of_not_chunk hchunk]
      refine ⟨fun h => absurd h Bool.false_ne_true, fun ⟨_, header, rest, hs, _⟩ => ?_⟩
      exact absurd ⟨header, rest, hs⟩ hchunk
  · rw [if_pos hsig]
    exact ⟨fun h => absurd h Bool.false_ne_true, fun h => absurd h.1 hsig⟩

/-! ## The whole scan -/

/-- The checked scan of a whole file never fails, and comes to what the calls use. -/
theorem inspectPng_eq (hlen : data.length ≤ kAvatarMaxBytes) {rounds : Nat}
    (hrounds : data.length ≤ rounds) :
    inspectPng data rounds = .ok (hasPngStructure (some data)) := by
  have h8 : pngSignature.length = 8 := rfl
  unfold inspectPng hasPngStructure
  dsimp only
  by_cases hshort : data.length < pngSignature.length
  · have hsig : data.take pngSignature.length ≠ pngSignature := by
      intro h
      have := congrArg List.length h
      rw [List.length_take] at this
      omega
    rw [if_pos hshort, if_pos hsig]
    rfl
  · rw [if_neg hshort, inspect_of_le (by omega), List.drop_zero]
    simp only [bind, Except.bind, pure, Except.pure, bne_iff_ne]
    split
    · rfl
    · exact inspectChunks_eq hlen (by omega) (by omega) (by omega) false

/-- **The image scan.** On every input within the bridge's limit the scan ends, reads inside
the data, wraps none of its arithmetic, and accepts exactly the files of the grammar. -/
theorem hasPngStructure_exact (data : Bytes) (hlen : data.length ≤ kAvatarMaxBytes) :
    (∀ rounds, data.length ≤ rounds →
      inspectPng data rounds = .ok (hasPngStructure (some data))) ∧
    (hasPngStructure (some data) = true ↔ ∃ f : PngFile, data = f.encode) :=
  ⟨fun _ => inspectPng_eq hlen, hasPngStructure_iff hlen⟩

/-- A PNG the bridge accepts. -/
def tinyPng : Bytes :=
  pngSignature ++ [0, 0, 0, 13] ++ ascii "IHDR" ++ [0, 0, 0, 1, 0, 0, 0, 1, 8, 0, 0, 0, 0] ++
    [0, 0, 0, 0] ++ [0, 0, 0, 1] ++ ascii "IDAT" ++ [7] ++ [0, 0, 0, 0] ++ [0, 0, 0, 0] ++
    ascii "IEND" ++ [0, 0, 0, 0]

theorem hasPngStructure_exact_tiny : inspectPng tinyPng 58 = .ok true ∧
    ∃ f : PngFile, tinyPng = f.encode := by
  obtain ⟨hscan, hgrammar⟩ := hasPngStructure_exact tinyPng (by decide)
  have haccepts : hasPngStructure (some tinyPng) = true := by decide +kernel
  exact ⟨haccepts ▸ hscan 58 (by decide), hgrammar.mp haccepts⟩

end BotHider.Model
