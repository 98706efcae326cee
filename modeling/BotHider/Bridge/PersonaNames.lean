import BotHider.Lib.Fit
import BotHider.Model.Exports
import BotHider.Model.PersonaName

/-!
# BotHider — persona names, normalized

The loops of `BuildBoundedVisiblePersonaName` compute `Fit.normalize` over the source's text
elements (`build_eq_normalize`). So the name they leave fits, is trimmed and has nothing
invisible in it, and building it again changes nothing; nothing in it stops `CopyInput`.
-/

namespace BotHider.Model

variable {category : Char → UnicodeCategory}

/-! ## Code units and runes -/

theorem toNat_ofNat {n : Nat} (h : n.isValidChar) : (Char.ofNat n).toNat = n := by
  rw [Char.ofNat, dif_pos h]
  rfl

theorem isHighSurrogate_iff {c : UInt16} :
    isHighSurrogate c = true ↔ 0xD800 ≤ c.toNat ∧ c.toNat ≤ 0xDBFF := by
  simp [isHighSurrogate, UInt16.le_iff_toNat_le]

theorem isLowSurrogate_iff {c : UInt16} :
    isLowSurrogate c = true ↔ 0xDC00 ≤ c.toNat ∧ c.toNat ≤ 0xDFFF := by
  simp [isLowSurrogate, UInt16.le_iff_toNat_le]

theorem toNat_unitRune {c : UInt16} (hhigh : isHighSurrogate c = false)
    (hlow : isLowSurrogate c = false) : (unitRune c).toNat = c.toNat := by
  have hnothigh := mt isHighSurrogate_iff.mpr (Bool.eq_false_iff.mp hhigh)
  have hnotlow := mt isLowSurrogate_iff.mpr (Bool.eq_false_iff.mp hlow)
  have hlt := c.toNat_lt
  rw [unitRune, hhigh, hlow, Bool.or_self, if_neg Bool.false_ne_true]
  refine toNat_ofNat ?_
  unfold Nat.isValidChar
  omega

theorem toNat_pairRune {high low : UInt16} (hhigh : isHighSurrogate high = true)
    (hlow : isLowSurrogate low = true) : 0x10000 ≤ (pairRune high low).toNat := by
  obtain ⟨hh, hh'⟩ := isHighSurrogate_iff.mp hhigh
  obtain ⟨hl, hl'⟩ := isLowSurrogate_iff.mp hlow
  rw [pairRune, toNat_ofNat (by unfold Nat.isValidChar; omega)]
  omega

/-- Only a high surrogate takes the next code unit with it. -/
theorem enumerateRunes_cons {c : UInt16} (h : isHighSurrogate c = false) (s : Utf16) :
    enumerateRunes (c :: s) = unitRune c :: enumerateRunes s := by
  cases s with
  | nil => rfl
  | cons next rest =>
    rw [enumerateRunes, h, Bool.false_and, if_neg Bool.false_ne_true]

theorem nul_notMem_enumerateRunes {s : Utf16} (h : 0 ∉ s) :
    ∀ r ∈ enumerateRunes s, r.toNat ≠ 0 := by
  -- a lone surrogate is replaced, and any other unit is its own code point
  have hunit : ∀ c : UInt16, c ≠ 0 → (unitRune c).toNat ≠ 0 := by
    intro c hc
    by_cases hsurrogate : (isHighSurrogate c || isLowSurrogate c) = true
    · rw [unitRune, if_pos hsurrogate]
      decide
    · rw [Bool.not_eq_true, Bool.or_eq_false_iff] at hsurrogate
      rw [toNat_unitRune hsurrogate.1 hsurrogate.2]
      exact fun h => hc (UInt16.toNat_inj.mp h)
  induction s using enumerateRunes.induct with
  | case1 => simp [enumerateRunes]
  | case2 c =>
    intro r hr
    rw [enumerateRunes, List.mem_singleton] at hr
    subst hr
    exact hunit c fun hc => h (List.mem_singleton.mpr hc.symm)
  | case3 c next rest hpair ih =>
    have hsurrogates := Bool.and_eq_true_iff.mp hpair
    rw [enumerateRunes, if_pos hpair]
    intro r hr
    rcases List.mem_cons.mp hr with hr | hr
    · -- a pair is beyond the units
      have hle := toNat_pairRune hsurrogates.1 hsurrogates.2
      rw [hr]
      omega
    · exact ih (fun hmem => h (by simp [hmem])) r hr
  | case4 c next rest hpair ih =>
    rw [enumerateRunes, if_neg hpair]
    intro r hr
    rcases List.mem_cons.mp hr with rfl | hr
    · exact hunit c fun hc => h (by simp [hc])
    · exact ih (fun hmem => h (List.mem_cons_of_mem _ hmem)) r hr

theorem nul_mem_enumerateRunes {s : Utf16} (h : 0 ∈ s) : '\x00' ∈ enumerateRunes s := by
  induction s using enumerateRunes.induct with
  | case1 => cases h
  | case2 c =>
    rw [← List.mem_singleton.mp h]
    decide
  | case3 c next rest hpair ih =>
    -- neither half of a pair is NUL
    have hsurrogates := Bool.and_eq_true_iff.mp hpair
    rw [enumerateRunes, if_pos hpair]
    refine List.mem_cons_of_mem _ (ih ?_)
    rcases List.mem_cons.mp h with rfl | h
    · exact absurd hsurrogates.1 (by decide)
    · rcases List.mem_cons.mp h with rfl | h
      · exact absurd hsurrogates.2 (by decide)
      · exact h
  | case4 c next rest hpair ih =>
    rw [enumerateRunes, if_neg hpair]
    rcases List.mem_cons.mp h with rfl | h
    · exact List.mem_cons_self
    · exact List.mem_cons_of_mem _ (ih h)

theorem getBytes_ne_nil {s : Utf16} (h : s ≠ []) : getBytes s ≠ [] := by
  have hrunes : enumerateRunes s ≠ [] := by
    fun_cases enumerateRunes s with
    | case1 => exact absurd rfl h
    | _ => exact List.cons_ne_nil _ _
  obtain ⟨r, runes, hr⟩ := List.exists_cons_of_ne_nil hrunes
  rw [getBytes, hr, Utf8.encode_cons]
  exact List.append_ne_nil_of_left_ne_nil String.utf8EncodeChar_ne_nil _

/-- Joined strings take no more bytes: two halves of a pair can meet. -/
theorem getByteCount_append_le (s t : Utf16) :
    getByteCount (s ++ t) ≤ getByteCount s + getByteCount t := by
  unfold getByteCount getBytes
  induction s using enumerateRunes.induct with
  | case1 => simp [enumerateRunes]
  | case2 c =>
    cases t with
    | nil => simp [enumerateRunes]
    | cons next rest =>
      rw [List.singleton_append]
      by_cases hpair : (isHighSurrogate c && isLowSurrogate next) = true
      · -- the seam joins two lone surrogates, of 3 bytes each, into one rune of at most 4
        have hsurrogates := Bool.and_eq_true_iff.mp hpair
        have hnext : isHighSurrogate next = false := by
          have hlow := (isLowSurrogate_iff.mp hsurrogates.2).1
          refine Bool.eq_false_iff.mpr fun hhigh => ?_
          have hle := (isHighSurrogate_iff.mp hhigh).2
          omega
        have hlone : ∀ c : UInt16, (isHighSurrogate c || isLowSurrogate c) = true →
            (unitRune c).utf8Size = 3 := fun c hc => by
          rw [unitRune, if_pos hc]
          decide
        have hmost := (pairRune c next).utf8Size_le_four
        rw [enumerateRunes.eq_3, if_pos hpair, enumerateRunes_cons hnext, enumerateRunes.eq_2,
          Utf8.length_encode_cons, Utf8.length_encode_cons, Utf8.length_encode_cons,
          hlone c (by simp [hsurrogates.1]), hlone next (by simp [hsurrogates.2])]
        omega
      · rw [enumerateRunes.eq_3, if_neg hpair, enumerateRunes.eq_2, Utf8.length_encode_cons,
          Utf8.length_encode_cons, Utf8.encode_nil, List.length_nil]
        omega
  | case3 c next rest hpair ih =>
    rw [List.cons_append, List.cons_append, enumerateRunes, if_pos hpair, enumerateRunes,
      if_pos hpair, Utf8.length_encode_cons, Utf8.length_encode_cons]
    omega
  | case4 c next rest hpair ih =>
    rw [List.cons_append, List.cons_append, enumerateRunes, if_neg hpair, enumerateRunes,
      if_neg hpair, Utf8.length_encode_cons, Utf8.length_encode_cons, ← List.cons_append]
    omega

theorem getByteCount_flatten_le (elements : List Utf16) :
    getByteCount elements.flatten ≤ Fit.total getByteCount elements := by
  induction elements with
  | nil => exact Nat.zero_le _
  | cons e elements ih =>
    rw [List.flatten_cons, Fit.total_cons]
    have happend := getByteCount_append_le e elements.flatten
    omega

/-! ## White space -/

theorem not_surrogate_of_isWhiteSpace {c : UInt16} (h : isWhiteSpace c = true) :
    isHighSurrogate c = false ∧ isLowSurrogate c = false := by
  unfold isWhiteSpace at h
  unfold isHighSurrogate isLowSurrogate
  simp only [Bool.or_eq_true, Bool.and_eq_true, decide_eq_true_eq, beq_iff_eq,
    UInt16.le_iff_toNat_le, ← UInt16.toNat_inj, UInt16.reduceToNat, Bool.and_eq_false_iff,
    decide_eq_false_iff_not] at h ⊢
  omega

/-- A string of white space is read as white space. -/
theorem isWhiteSpaceRune_of_mem {s : Utf16} (h : isAllWhiteSpace s = true) :
    ∀ r ∈ enumerateRunes s, isWhiteSpaceRune r = true := by
  induction s with
  | nil => simp [enumerateRunes]
  | cons c s ih =>
    rw [isAllWhiteSpace, List.all_cons, Bool.and_eq_true] at h
    obtain ⟨hhigh, hlow⟩ := not_surrogate_of_isWhiteSpace h.1
    rw [enumerateRunes_cons hhigh]
    intro r hr
    rcases List.mem_cons.mp hr with rfl | hr
    · have hlt := c.toNat_lt
      rw [isWhiteSpaceRune, toNat_unitRune hhigh hlow, UInt16.ofNat_toNat, h.1,
        decide_eq_true (by omega)]
      rfl
    · exact ih h.2 r hr

theorem whitespaceRunes_of_all {runes : List Char} {hasWhitespace : Bool}
    (h : ∀ r ∈ runes, isWhiteSpaceRune r = true) :
    whitespaceRunes category hasWhitespace runes = (hasWhitespace || !runes.isEmpty) := by
  induction runes generalizing hasWhitespace with
  | nil => rw [whitespaceRunes, List.isEmpty_nil, Bool.not_true, Bool.or_false]
  | cons r runes ih =>
    rw [whitespaceRunes, if_pos (h r List.mem_cons_self),
      ih fun r hr => h r (List.mem_cons_of_mem _ hr)]
    simp

/-- An element of white space counts as such, unless nothing of it is visible. -/
theorem blank_of_isAllWhiteSpace {e : Utf16} (h : isAllWhiteSpace e = true)
    (hshown : isInvisiblePersonaElement category e = false) :
    isWhitespacePersonaElement category e = true := by
  unfold isWhitespacePersonaElement
  rw [whitespaceRunes_of_all (isWhiteSpaceRune_of_mem h)]
  unfold isInvisiblePersonaElement at hshown
  cases hrunes : enumerateRunes e with
  | nil =>
    rw [hrunes] at hshown
    cases hshown
  | cons => rfl

/-! ## What the loops compute -/

theorem collectVisible_eq (kept elements : List Utf16) :
    collectVisible category kept elements =
      kept ++ elements.filter fun e => !isInvisiblePersonaElement category e := by
  induction elements generalizing kept with
  | nil => rw [collectVisible, List.filter_nil, List.append_nil]
  | cons e elements ih =>
    unfold collectVisible
    cases he : isInvisiblePersonaElement category e with
    | true => simp [he, ih]
    | false => simp [he, ih]

theorem advanceFirst_eq (elements : List Utf16) (first : Nat) :
    advanceFirst category elements first =
      first + (elements.takeWhile (isWhitespacePersonaElement category)).length := by
  induction elements generalizing first with
  | nil => rfl
  | cons e elements ih =>
    unfold advanceFirst
    cases he : isWhitespacePersonaElement category e with
    | true =>
      rw [if_pos rfl, ih, List.takeWhile_cons_of_pos he, List.length_cons]
      omega
    | false =>
      rw [if_neg Bool.false_ne_true, List.takeWhile_cons_of_neg (by simp [he])]
      rfl

theorem drop_advanceFirst (elements : List Utf16) :
    elements.drop (advanceFirst category elements 0) =
      elements.dropWhile (isWhitespacePersonaElement category) := by
  have hsplit := congrArg
    (List.drop (elements.takeWhile (isWhitespacePersonaElement category)).length)
    (List.takeWhile_append_dropWhile (p := isWhitespacePersonaElement category) (l := elements))
  rw [List.drop_left] at hsplit
  rw [advanceFirst_eq, Nat.zero_add, hsplit]

/-- `last` stops in front of the blank end of what lies behind `first`. -/
theorem retreatLast_eq (elements : List Utf16) {first last : Nat} (hfirst : first ≤ last)
    (hlast : last ≤ elements.length) :
    (elements.take (retreatLast category elements first last)).drop first =
      ((elements.take last).drop first).rdropWhile (isWhitespacePersonaElement category) := by
  induction last with
  | zero => simp [retreatLast]
  | succ last ih =>
    have hget : elements[last]? = some elements[last] := List.getElem?_eq_getElem hlast
    unfold retreatLast
    rw [hget, Option.any_some]
    rcases Nat.lt_or_ge last first with hlt | hge
    · -- nothing lies behind `first`
      rw [if_neg (by omega), List.drop_eq_nil_of_le (by simp; omega), List.rdropWhile_nil]
    · have hsplit : (elements.take (last + 1)).drop first =
          (elements.take last).drop first ++ [elements[last]] := by
        rw [List.take_succ_eq_append_getElem hlast, List.drop_append_of_le_length (by simp; omega)]
      cases he : isWhitespacePersonaElement category elements[last] with
      | true =>
        rw [if_pos ⟨by omega, rfl⟩, ih hge (by omega), hsplit, List.rdropWhile_concat_pos _ _ _ he]
      | false =>
        rw [if_neg (by simp), hsplit, List.rdropWhile_concat_neg _ _ _ (by simp [he])]

theorem collectBounded_eq (kept elements : List Utf16) {utf8Bytes : Nat}
    (h : utf8Bytes ≤ kMaxPlayerNameUtf8Bytes) :
    collectBounded kept utf8Bytes elements =
      kept ++ Fit.within getByteCount (kMaxPlayerNameUtf8Bytes - utf8Bytes) elements := by
  induction elements generalizing kept utf8Bytes with
  | nil => rw [collectBounded, Fit.within, List.append_nil]
  | cons e elements ih =>
    unfold collectBounded Fit.within
    dsimp only
    by_cases hfits : utf8Bytes + getByteCount e > kMaxPlayerNameUtf8Bytes
    · rw [if_pos hfits, if_neg (by omega), List.append_nil]
    · rw [if_neg hfits, if_pos (by omega), ih _ (by omega), List.append_assoc, Nat.sub_sub]
      rfl

theorem removeTrailing_eq {rounds : Nat} {elements : List Utf16} (h : elements.length ≤ rounds) :
    removeTrailing category rounds elements =
      elements.rdropWhile (isWhitespacePersonaElement category) := by
  induction rounds generalizing elements with
  | zero =>
    rw [List.length_eq_zero_iff.mp (Nat.le_zero.mp h)]
    rfl
  | succ rounds ih =>
    unfold removeTrailing
    rcases List.eq_nil_or_concat elements with rfl | ⟨front, e, rfl⟩
    · rfl
    · rw [List.concat_eq_append, List.getLast?_concat]
      dsimp only
      cases he : isWhitespacePersonaElement category e with
      | true =>
        rw [if_pos rfl, List.dropLast_concat, List.rdropWhile_concat_pos _ _ _ he]
        exact ih (by simp at h; omega)
      | false => rw [if_neg Bool.false_ne_true, List.rdropWhile_concat_neg _ _ _ (by simp [he])]

variable (category) in
/-- What is left of a list of text elements. -/
def keptElements (elements : List Utf16) : List Utf16 :=
  Fit.normalize (isInvisiblePersonaElement category) (isWhitespacePersonaElement category)
    getByteCount kMaxPlayerNameUtf8Bytes elements

/-- What is relied on of the platform's text: the elements of a string are the string cut up,
NUL is a control character, and control characters share no element with others. -/
structure PlatformText (category : Char → UnicodeCategory) (textElements : Utf16 → List Utf16) :
    Prop where
  whole : ∀ s, (textElements s).flatten = s
  nul : category '\x00' = .control
  control : ∀ s, ∀ e ∈ textElements s, ∀ r ∈ enumerateRunes e, category r = .control →
    ∀ r' ∈ enumerateRunes e, category r' = .control

variable {textElements : Utf16 → List Utf16}

/-- **The loops.** A name is what normalizing leaves of the source's elements. -/
theorem build_eq_kept (h : PlatformText category textElements) (source : Utf16) :
    buildBoundedVisiblePersonaName category textElements (some source) =
      (keptElements category (textElements source)).flatten := by
  unfold buildBoundedVisiblePersonaName
  dsimp only
  cases hblank : isAllWhiteSpace source with
  | true =>
    -- nothing would be left of white space either
    rw [if_pos rfl, keptElements, Fit.normalize_eq_nil]
    · rfl
    · intro e he hshown
      refine blank_of_isAllWhiteSpace (List.all_eq_true.mpr fun c hc => ?_) hshown
      refine List.all_eq_true.mp hblank c ?_
      rw [← h.whole source]
      exact List.mem_flatten_of_mem he hc
  | false =>
    unfold keptElements Fit.normalize Fit.trim
    rw [if_neg Bool.false_ne_true, collectVisible_eq, List.nil_append]
    generalize (textElements source).filter (fun e => !isInvisiblePersonaElement category e) =
      elements
    have hfirst : advanceFirst category elements 0 ≤ elements.length := by
      rw [advanceFirst_eq, Nat.zero_add]
      exact (List.takeWhile_prefix _).length_le
    rw [removeTrailing_eq (Nat.le_refl _), collectBounded_eq _ _ (Nat.zero_le _),
      List.nil_append, Nat.sub_zero, retreatLast_eq elements hfirst (Nat.le_refl _),
      List.take_length, drop_advanceFirst]

/-! ## What a name is -/

theorem invisibleRunes_of_all {runes : List Char}
    (h : ∀ r ∈ runes, isInvisiblePersonaRune category r = true) :
    invisibleRunes category runes = true := by
  induction runes with
  | nil => rfl
  | cons r runes ih =>
    rw [invisibleRunes, h r List.mem_cons_self]
    exact ih fun r' hr' => h r' (List.mem_cons_of_mem _ hr')

/-- An element with a NUL in it is invisible. -/
theorem isInvisible_of_nul_mem (h : PlatformText category textElements) {source e : Utf16}
    (he : e ∈ textElements source) (hnul : 0 ∈ e) :
    isInvisiblePersonaElement category e = true := by
  refine invisibleRunes_of_all fun r hr => ?_
  have hcontrol := h.control source e he _ (nul_mem_enumerateRunes hnul) h.nul r hr
  unfold isInvisiblePersonaRune
  rw [hcontrol]

variable (category) in
/-- The name made of a list of elements: the longest beginning of the visible elements, trimmed,
that fits, with the blank elements at its end taken off. -/
structure NormalizedName (elements kept : List Utf16) (name : Utf16) : Prop where
  longest : ∃ bounded, Fit.Longest getByteCount kMaxPlayerNameUtf8Bytes
      (Fit.trim (isWhitespacePersonaElement category)
        (elements.filter fun e => !isInvisiblePersonaElement category e)) bounded ∧
    kept = bounded.rdropWhile (isWhitespacePersonaElement category)
  whole : name = kept.flatten
  shown : ∀ e ∈ kept, isInvisiblePersonaElement category e = false
  trimmed : Fit.Trimmed (isWhitespacePersonaElement category) kept
  fits : getByteCount name ≤ 31
  noNul : 0 ∉ name

theorem normalizedName_flatten {elements : List Utf16}
    (hnul : ∀ e ∈ elements, 0 ∈ e → isInvisiblePersonaElement category e = true) :
    NormalizedName category elements (keptElements category elements)
      (keptElements category elements).flatten := by
  have hnormal : Fit.Normal (isInvisiblePersonaElement category)
      (isWhitespacePersonaElement category) getByteCount kMaxPlayerNameUtf8Bytes
      (keptElements category elements) := Fit.normal_normalize elements
  refine ⟨⟨_, Fit.longest_within _ _ _, rfl⟩, rfl, hnormal.shown, hnormal.trimmed,
    (getByteCount_flatten_le _).trans hnormal.fits, fun hmem => ?_⟩
  obtain ⟨e, he, hzero⟩ := List.mem_flatten.mp hmem
  obtain ⟨helement, hshown⟩ := Fit.mem_of_mem_normalize he
  rw [hnul e helement hzero] at hshown
  cases hshown

/-- A name that fits and has no NUL passes `CopyInput`, whatever lies behind its bytes. -/
theorem copyInput_getBytes {name : Utf16} (hfits : getByteCount name ≤ 31) (hnul : 0 ∉ name)
    (rest : Bytes) :
    World.copyInput kNameLen (some (getBytes name ++ rest)) (getByteCount name) =
      some (getBytes name) := by
  have htake : (getBytes name ++ rest).take (Int.toNat (getByteCount name)) = getBytes name :=
    List.take_left
  have hzero : (0 : UInt8) ∉ getBytes name :=
    Utf8.zero_notMem_encode (nul_notMem_enumerateRunes hnul)
  have hlen : kNameLen = 32 := rfl
  unfold World.copyInput
  dsimp only
  rw [htake, if_neg]
  rintro (hneg | hlong | hmem)
  · omega
  · omega
  · exact hzero hmem

/-- **Persona names.** Whatever the source, the name built of it is normalized; where its
elements are the ones that were kept, building it again gives it back; and `BH_SetName` accepts
it unless it is empty. -/
theorem personaName_normalized (h : PlatformText category textElements) (source : Option Utf16) :
    let name := buildBoundedVisiblePersonaName category textElements source
    ∃ kept, NormalizedName category (source.elim [] textElements) kept name ∧
      (textElements name = kept →
        buildBoundedVisiblePersonaName category textElements (some name) = name) ∧
      (name ≠ [] → 0 < getByteCount name ∧ ∀ rest,
        World.copyInput kNameLen (some (getBytes name ++ rest)) (getByteCount name) =
          some (getBytes name)) := by
  intro name
  have hname : NormalizedName category (source.elim [] textElements)
      (keptElements category (source.elim [] textElements)) name := by
    cases source with
    | none => exact normalizedName_flatten fun e he => nomatch he
    | some source =>
      have hbuild : name = (keptElements category (textElements source)).flatten :=
        build_eq_kept h source
      rw [hbuild]
      exact normalizedName_flatten fun e he hnul => isInvisible_of_nul_mem h he hnul
  refine ⟨_, hname, fun hcut => ?_, fun hne => ⟨?_, copyInput_getBytes hname.fits hname.noNul⟩⟩
  · rw [build_eq_kept h, hcut, keptElements, keptElements, Fit.normalize_normalize]
    exact hname.whole.symm
  · exact List.length_pos_iff.mpr (getBytes_ne_nil hne)

/-- The categories of ASCII, where it matters here. -/
def asciiCategory (rune : Char) : UnicodeCategory :=
  if rune.toNat < 0x20 ∨ rune.toNat = 0x7F then .control
  else if rune = ' ' then .spaceSeparator
  else .lowercaseLetter

/-- ASCII text without line breaks: every character is an element. -/
theorem platformText_ascii : PlatformText asciiCategory fun s => s.map fun c => [c] where
  whole s := by
    induction s with
    | nil => rfl
    | cons c s ih => exact congrArg (c :: ·) ih
  nul := rfl
  control s e he r hr hcontrol r' hr' := by
    obtain ⟨c, -, rfl⟩ := List.mem_map.mp he
    rw [List.mem_singleton.mp hr', ← List.mem_singleton.mp hr]
    exact hcontrol

/-- A tab inside is dropped and the spaces around are trimmed. -/
theorem personaName_normalized_ascii :
    let name := buildBoundedVisiblePersonaName asciiCategory (fun s => s.map fun c => [c])
      (some (utf16 "  b\to t "))
    name = utf16 "bo t" ∧ ∀ rest,
      World.copyInput kNameLen (some (getBytes name ++ rest)) (getByteCount name) =
        some (getBytes name) := by
  intro name
  have hname : name = utf16 "bo t" := by decide +kernel
  obtain ⟨kept, -, -, hcopy⟩ := personaName_normalized platformText_ascii
    (some (utf16 "  b\to t "))
  have hne : name ≠ [] := by
    rw [hname]
    decide
  exact ⟨hname, (hcopy hne).2⟩

end BotHider.Model
