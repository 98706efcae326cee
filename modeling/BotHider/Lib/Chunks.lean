import Mathlib.Data.List.Basic

/-!
# Chunked containers

A chunk is a 4-byte big-endian size, a 4-byte type, as many data bytes as the size says and
4 check bytes. A container is a sequence of chunks, so a reader at a chunk's first byte knows
from the first eight bytes where the next chunk starts.

* `exists_chunk` — bytes that are long enough for the size they start with start with a chunk.
* `Chunk.encode_inj` — the chunk they start with is unique, and so is what follows it.
-/

namespace Chunks

variable {s s' : List UInt8}

/-- The value of a big-endian byte string. -/
def bigEndian (p : List UInt8) : Nat := p.foldl (fun n b => n * 256 + b.toNat) 0

/-- One chunk, with the widths of its fields. -/
structure Chunk where
  size : List UInt8
  type : List UInt8
  data : List UInt8
  check : List UInt8
  size_length : size.length = 4
  type_length : type.length = 4
  check_length : check.length = 4
  size_eq : bigEndian size = data.length

/-- The bytes of a chunk. -/
def Chunk.encode (c : Chunk) : List UInt8 := c.size ++ (c.type ++ (c.data ++ c.check))

variable {c c' : Chunk}

theorem Chunk.length_encode (c : Chunk) : c.encode.length = c.data.length + 12 := by
  have hsize := c.size_length
  have htype := c.type_length
  have hcheck := c.check_length
  unfold encode
  simp only [List.length_append]
  omega

/-! ## Reading the fields -/

theorem Chunk.take_encode (c : Chunk) (s : List UInt8) : (c.encode ++ s).take 4 = c.size := by
  unfold encode
  rw [List.append_assoc, List.take_left' c.size_length]

theorem Chunk.drop_four (c : Chunk) (s : List UInt8) :
    (c.encode ++ s).drop 4 = c.type ++ (c.data ++ (c.check ++ s)) := by
  unfold encode
  rw [List.append_assoc, List.drop_left' c.size_length]
  simp only [List.append_assoc]

theorem Chunk.take_drop_four (c : Chunk) (s : List UInt8) :
    ((c.encode ++ s).drop 4).take 4 = c.type := by
  rw [c.drop_four, List.take_left' c.type_length]

theorem Chunk.drop_eight (c : Chunk) (s : List UInt8) :
    (c.encode ++ s).drop 8 = c.data ++ (c.check ++ s) := by
  rw [show 8 = 4 + 4 from rfl, ← List.drop_drop, c.drop_four, List.drop_left' c.type_length]

theorem Chunk.drop_encode (c : Chunk) (s : List UInt8) :
    (c.encode ++ s).drop (c.data.length + 12) = s :=
  List.drop_left' c.length_encode

/-! ## Splitting off a chunk -/

/-- **Split.** Bytes that are long enough for the size they start with start with a chunk. -/
theorem exists_chunk (h12 : 12 ≤ s.length) (hsize : bigEndian (s.take 4) ≤ s.length - 12) :
    ∃ (c : Chunk) (rest : List UInt8), s = c.encode ++ rest := by
  generalize hn : bigEndian (s.take 4) = n at hsize
  let c : Chunk :=
    { size := s.take 4
      type := (s.drop 4).take 4
      data := (s.drop 8).take n
      check := (s.drop (8 + n)).take 4
      size_length := by rw [List.length_take]; omega
      type_length := by rw [List.length_take, List.length_drop]; omega
      check_length := by rw [List.length_take, List.length_drop]; omega
      size_eq := by rw [hn, List.length_take, List.length_drop]; omega }
  refine ⟨c, s.drop (12 + n), ?_⟩
  have hsplit : ∀ i k, (s.drop i).take k ++ s.drop (i + k) = s.drop i := fun i k => by
    rw [← List.drop_drop, List.take_append_drop]
  have hcheck : (s.drop (8 + n)).take 4 ++ s.drop (12 + n) = s.drop (8 + n) := by
    rw [show 12 + n = 8 + n + 4 by omega, hsplit]
  have hdata : (s.drop 8).take n ++ s.drop (8 + n) = s.drop 8 := hsplit 8 n
  have htype : (s.drop 4).take 4 ++ s.drop 8 = s.drop 4 := hsplit 4 4
  change s = (s.take 4 ++ ((s.drop 4).take 4 ++ ((s.drop 8).take n ++
    (s.drop (8 + n)).take 4))) ++ s.drop (12 + n)
  simp only [List.append_assoc]
  rw [hcheck, hdata, htype, List.take_append_drop]

/-- The size a chunk starts with fits the bytes it stands in. -/
theorem Chunk.size_le (c : Chunk) (s : List UInt8) :
    12 ≤ (c.encode ++ s).length ∧
      bigEndian ((c.encode ++ s).take 4) = c.data.length ∧
      bigEndian ((c.encode ++ s).take 4) ≤ (c.encode ++ s).length - 12 := by
  rw [c.take_encode, c.size_eq, List.length_append, c.length_encode]
  omega

/-- **Unique reading.** The first chunk and what follows it are determined. -/
theorem Chunk.encode_inj (h : c.encode ++ s = c'.encode ++ s') : c = c' ∧ s = s' := by
  have hsize : c.size = c'.size := by
    rw [← c.take_encode s, h, c'.take_encode]
  have hlen : c.data.length = c'.data.length := by
    rw [← c.size_eq, hsize, c'.size_eq]
  have henc : c.encode.length = c'.encode.length := by
    rw [c.length_encode, c'.length_encode, hlen]
  obtain ⟨hencode, hrest⟩ := List.append_inj h henc
  refine ⟨?_, hrest⟩
  obtain ⟨-, h2⟩ := List.append_inj hencode (by rw [hsize])
  obtain ⟨htype, h3⟩ := List.append_inj h2 (by rw [c.type_length, c'.type_length])
  obtain ⟨hdata, hcheck⟩ := List.append_inj h3 hlen
  cases c
  cases c'
  simp only at hsize htype hdata hcheck
  subst hsize htype hdata hcheck
  rfl

end Chunks
