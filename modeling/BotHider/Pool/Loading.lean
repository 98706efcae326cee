import BotHider.Lib.Decimal
import BotHider.Model.BotInfo

/-!
# BotHider — which identities the pool holds

`ValidMember` says when a member of `players` is a valid identity and `Describes` which one,
in the document's own terms: numerals, integers and byte strings, without the loader's steps.

Main results:

* `parseAccountId_eq_some_iff` — a key is accepted when it is the canonical numeral of an
  account, so distinct keys are distinct accounts.
* `loadEntry_eq_some_iff` — a round of the loop takes the valid members, as described.
* `load_admits_valid` — the pool, in order.
-/

namespace BotHider.Model

/-! ## What an identity is -/

/-- A member of `players` that is a valid identity. -/
structure ValidMember (key : String) (val : Json) : Prop where
  key : ∃ n, 1 ≤ n ∧ n < 2 ^ 32 ∧ key = toString n
  object : ∃ fields, val = .obj fields
  name : ∃ name, val.get? "player_name" = some (.str name) ∧ 1 ≤ name.length ∧
    name.length ≤ 31 ∧ (∃ ch ∈ name, ch ≠ 0x20) ∧ ∀ ch ∈ name, ¬ (ch < 0x20 ∨ ch = 0x7F)
  crosshair : ∀ code, val.get? "crosshair_code" = some (.str code) →
    code.length ≤ 63 ∧ (0 : UInt8) ∉ code

/-- The identity a member describes. -/
structure Describes (key : String) (val : Json) (e : BotEntry) : Prop where
  account : key = toString e.accountId.toNat
  steamId64 : e.steamId64.toNat = kSteamId64Base.toNat + e.accountId.toNat
  name : val.get? "player_name" = some (.str e.name)
  crosshair : e.crosshairCode =
    match val.get? "crosshair_code" with
    | some (.str code) => if code = [0x30] then [] else code
    | _ => []
  flair : (e.scoreboardFlair.toNat : Int) =
    match (val.get? "scoreboard_flair").bind Json.toInt? with
    | some flair => if 0 ≤ flair ∧ flair ≤ 65535 then flair else 0
    | none => 0
  clanTag : e.clanTag = parseClanTag val

/-! ## Keys -/

theorem foldl_digits (cs : List Char) :
    cs.foldl (fun n c => n * 10 + (c.toNat - '0'.toNat)) 0 = Nat.ofDigitChars 10 cs 0 := by
  rw [Nat.ofDigitChars_eq_foldl]
  simp only [Nat.mul_comm]

/-- `from_chars` takes a whole text when it is a numeral in range. -/
theorem fromChars_eq_some_nil_iff {text : List Char} {accountId : UInt32} :
    fromChars text = some (accountId, []) ↔
      text ≠ [] ∧ (∀ c ∈ text, c.isDigit = true) ∧
        Nat.ofDigitChars 10 text 0 = accountId.toNat := by
  have hlt := accountId.toNat_lt
  unfold fromChars
  dsimp only
  rw [foldl_digits]
  constructor
  · intro h
    split at h
    · cases h
    rename_i hok
    obtain ⟨haccount, hrest⟩ := Prod.mk.inj (Option.some.inj h)
    have hdigits : ∀ c ∈ text, c.isDigit = true := List.dropWhile_eq_nil_iff.mp hrest
    rw [List.takeWhile_eq_self_iff.mpr hdigits, not_or, Nat.not_le] at hok
    rw [List.takeWhile_eq_self_iff.mpr hdigits] at haccount
    refine ⟨hok.1, hdigits, ?_⟩
    rw [← haccount, UInt32.toNat_ofNat', Nat.mod_eq_of_lt hok.2]
  · rintro ⟨hne, hdigits, hvalue⟩
    rw [List.takeWhile_eq_self_iff.mpr hdigits, List.dropWhile_eq_nil_iff.mpr hdigits, hvalue,
      if_neg (by rw [not_or, Nat.not_le]; exact ⟨hne, hlt⟩), UInt32.ofNat_toNat]

/-- **Keys.** A key is accepted when it is the canonical numeral of a nonzero account. -/
theorem parseAccountId_eq_some_iff {key : String} {accountId : UInt32} :
    parseAccountId key = some accountId ↔ accountId ≠ 0 ∧ key = toString accountId.toNat := by
  have hrepr : key = toString accountId.toNat ↔ key.toList = Nat.toDigits 10 accountId.toNat := by
    rw [← Nat.toList_repr, String.toList_inj]
    rfl
  rw [hrepr]
  unfold parseAccountId
  constructor
  · intro h
    split at h
    · cases h
    rename_i front rest htext
    split at h
    · cases h
    rename_i hzero
    split at h
    · rename_i accountId' hchars
      split at h
      · rename_i hne
        obtain rfl := Option.some.inj h
        obtain ⟨-, hdigits, hvalue⟩ := fromChars_eq_some_nil_iff.mp hchars
        refine ⟨hne, ?_⟩
        rw [← hvalue, Decimal.toDigits_ofDigitChars hzero hdigits, htext]
      · cases h
    · cases h
  · rintro ⟨hne, htext⟩
    have hnat : accountId.toNat ≠ 0 := fun h => hne (UInt32.toNat_inj.mp h)
    have hhead := Decimal.head_toDigits hnat
    have hdigits : ∀ c ∈ Nat.toDigits 10 accountId.toNat, c.isDigit = true := fun c hc =>
      Nat.isDigit_of_mem_toDigits (by decide) (by decide) hc
    have hchars : fromChars (Nat.toDigits 10 accountId.toNat) = some (accountId, []) :=
      fromChars_eq_some_nil_iff.mpr ⟨Nat.toDigits_ne_nil, hdigits, Nat.ofDigitChars_ten_toDigits⟩
    rw [htext]
    cases hcases : Nat.toDigits 10 accountId.toNat with
    | nil => exact absurd hcases Nat.toDigits_ne_nil
    | cons front rest =>
      rw [hcases] at hhead hchars
      have hzero : front ≠ '0' := fun h => hhead (by rw [h]; rfl)
      dsimp only
      rw [if_neg hzero, hchars]
      exact if_pos hne

/-- A valid key is one the loader accepts. -/
theorem validKey_iff {key : String} :
    (∃ n, 1 ≤ n ∧ n < 2 ^ 32 ∧ key = toString n) ↔ ∃ a, parseAccountId key = some a := by
  constructor
  · rintro ⟨n, h1, h32, rfl⟩
    have hn : (UInt32.ofNat n).toNat = n := by
      rw [UInt32.toNat_ofNat', Nat.mod_eq_of_lt h32]
    refine ⟨UInt32.ofNat n, parseAccountId_eq_some_iff.mpr ⟨?_, by rw [hn]⟩⟩
    intro hz
    rw [hz] at hn
    simp only [UInt32.toNat_zero] at hn
    omega
  · rintro ⟨a, ha⟩
    obtain ⟨hne, hkey⟩ := parseAccountId_eq_some_iff.mp ha
    refine ⟨a.toNat, Nat.pos_of_ne_zero fun h => hne (UInt32.toNat_inj.mp h), a.toNat_lt, hkey⟩

/-! ## Values -/

theorem rejectsName_eq_false_iff {name : Bytes} : rejectsName name = false ↔
    1 ≤ name.length ∧ name.length ≤ 31 ∧ (∃ ch ∈ name, ch ≠ 0x20) ∧
      ∀ ch ∈ name, ¬ (ch < 0x20 ∨ ch = 0x7F) := by
  have hlen : kNameLen = 32 := rfl
  unfold rejectsName
  simp only [Bool.or_eq_false_iff, decide_eq_false_iff_not, List.any_eq_false, Bool.or_eq_true,
    decide_eq_true_eq, beq_iff_eq, List.all_eq_false, ge_iff_le, Nat.not_le]
  constructor
  · rintro ⟨⟨hshort, hcontrol⟩, ch, hmem, hspace⟩
    exact ⟨List.length_pos_of_mem hmem, by omega, ⟨ch, hmem, hspace⟩, hcontrol⟩
  · rintro ⟨-, hshort, hspace, hcontrol⟩
    exact ⟨⟨by omega, hcontrol⟩, hspace⟩

theorem crosshair_valid_iff {val : Json} :
    ¬ ((crosshairField val).length ≥ kCrosshairLen ∨ (0 : UInt8) ∈ crosshairField val) ↔
      ∀ code, val.get? "crosshair_code" = some (.str code) →
        code.length ≤ 63 ∧ (0 : UInt8) ∉ code := by
  have hlen : kCrosshairLen = 64 := rfl
  unfold crosshairField
  split
  · rename_i code hcode
    rw [not_or]
    refine ⟨fun h code' hcode' => ?_, fun h => ?_⟩
    · obtain rfl : code = code' := by simpa [hcode] using hcode'
      exact ⟨by omega, h.2⟩
    · obtain ⟨hshort, hnul⟩ := h code hcode
      exact ⟨by omega, hnul⟩
  · rename_i hnot
    exact ⟨fun _ code hcode => absurd hcode (hnot code), fun _ => by simp⟩

/-- A code `"0"` is dropped. -/
theorem clearedCrosshair (val : Json) :
    (if crosshairField val = [0x30] then [] else crosshairField val) =
      match val.get? "crosshair_code" with
      | some (.str code) => if code = [0x30] then [] else code
      | _ => [] := by
  unfold crosshairField
  cases val.get? "crosshair_code" with
  | none => rfl
  | some v => cases v <;> rfl

/-- The flair field is the document's integer, when it is one in range. -/
theorem toNat_flairField (val : Json) : ((flairField val).toNat : Int) =
    match (val.get? "scoreboard_flair").bind Json.toInt? with
    | some flair => if 0 ≤ flair ∧ flair ≤ 65535 then flair else 0
    | none => 0 := by
  unfold flairField
  cases hval : (val.get? "scoreboard_flair").bind Json.asSigned? with
  | none =>
    have hnone : (val.get? "scoreboard_flair").bind Json.toInt? = none := by
      cases hget : val.get? "scoreboard_flair" with
      | none => rfl
      | some v =>
        rw [hget] at hval
        cases v <;> first | rfl | cases hval
    rw [hnone]
    rfl
  | some n =>
    obtain ⟨v, hget, hn⟩ := Option.bind_eq_some_iff.mp hval
    obtain ⟨i, hi⟩ := Json.exists_toInt hn
    obtain ⟨hrange, hvalue⟩ := Json.inRange_asSigned (by decide : (0 : Int) ≤ 0)
      (by decide : (65535 : Int) < 2 ^ 63) hn hi
    have hcmp : 0 ≤ n ∧ n ≤ 65535 ↔ 0 ≤ i ∧ i ≤ 65535 := by
      rw [← hrange, Int64.le_iff_toInt_le, Int64.le_iff_toInt_le]
      rfl
    rw [hget]
    dsimp only [Option.bind_some]
    rw [hi]
    dsimp only
    by_cases h : 0 ≤ i ∧ i ≤ 65535
    · have hclamp : n.toNatClampNeg = n.toInt.toNat := rfl
      have hi : n.toInt = i := hvalue h.1 h.2
      rw [if_pos h, if_pos (hcmp.mpr h), UInt64.toNat_toUInt32,
        Int64.toNat_toUInt64_of_le (hcmp.mpr h).1, hclamp, Nat.mod_eq_of_lt (by omega)]
      omega
    · rw [if_neg h, if_neg (mt hcmp.mp h)]
      rfl

/-- **Clan pair.** The tag and the group come together or not at all. -/
theorem parseClanTag_pair (val : Json) :
    (parseClanTag val).tag ≠ [] ↔ (parseClanTag val).groupId ≠ 0 := by
  unfold parseClanTag
  split
  · rename_i tag groupId _ _
    split
    · simp
    · rename_i hok
      simp only [not_or, UInt64.not_lt] at hok
      obtain ⟨htag, -, -, hzero, hmax⟩ := hok
      refine iff_of_true htag fun h => hzero (UInt64.toNat_inj.mp ?_)
      have := congrArg UInt32.toNat h
      rw [UInt64.toNat_toUInt32] at this
      have hle : groupId.toNat ≤ 4294967295 := UInt64.le_iff_toNat_le.mp hmax
      simp only [UInt32.toNat_zero] at this
      simp only [UInt64.toNat_zero]
      omega
  · simp

/-! ## One member -/

theorem toNat_steamId64 (accountId : UInt32) :
    (kSteamId64Base + accountId.toUInt64).toNat = kSteamId64Base.toNat + accountId.toNat := by
  have hlt := accountId.toNat_lt
  rw [UInt64.toNat_add, UInt32.toNat_toUInt64, Nat.mod_eq_of_lt]
  simp only [kSteamId64Base, UInt64.reduceToNat]
  omega

/-- **One round.** The loop takes the valid members, as they describe themselves. -/
theorem loadEntry_eq_some_iff {key : String} {val : Json} {e : BotEntry} :
    loadEntry key val = some e ↔ ValidMember key val ∧ Describes key val e := by
  constructor
  · intro h
    unfold loadEntry at h
    split at h
    case h_2 => cases h
    rename_i fields
    split at h
    case h_2 => cases h
    rename_i accountId name hkey hname
    split at h
    · cases h
    rename_i hok
    dsimp only at h
    split at h
    · cases h
    rename_i hcross
    obtain rfl := Option.some.inj h
    refine ⟨⟨validKey_iff.mpr ⟨accountId, hkey⟩, ⟨fields, rfl⟩,
      ⟨name, hname, rejectsName_eq_false_iff.mp (by simpa using hok)⟩,
      crosshair_valid_iff.mp hcross⟩, ?_⟩
    refine ⟨(parseAccountId_eq_some_iff.mp hkey).2, toNat_steamId64 accountId, hname, ?_,
      toNat_flairField _, rfl⟩
    exact clearedCrosshair _
  · rintro ⟨hv, hd⟩
    obtain ⟨fields, rfl⟩ := hv.object
    obtain ⟨a, ha⟩ := validKey_iff.mp hv.key
    obtain ⟨name, hname, hrejects⟩ := hv.name
    have hsteam := hd.steamId64
    have haccount : a = e.accountId := by
      have hrepr := (parseAccountId_eq_some_iff.mp ha).2.symm.trans hd.account
      exact UInt32.toNat_inj.mp (Decimal.toString_injective hrepr)
    subst haccount
    obtain rfl : name = e.name := by simpa [hname] using hd.name
    unfold loadEntry
    dsimp only
    rw [ha, hname]
    dsimp only
    rw [rejectsName_eq_false_iff.mpr hrejects, if_neg Bool.false_ne_true,
      if_neg (crosshair_valid_iff.mpr hv.crosshair)]
    refine congrArg some (BotEntry.ext rfl rfl ?_ ?_ ?_ hd.clanTag.symm)
    · exact UInt64.toNat_inj.mp ((toNat_steamId64 _).trans hsteam.symm)
    · exact (clearedCrosshair _).trans hd.crosshair.symm
    · refine UInt32.toNat_inj.mp (Int.ofNat_inj.mp ?_)
      exact (toNat_flairField _).trans hd.flair.symm

theorem isSome_loadEntry_iff {key : String} {val : Json} :
    (loadEntry key val).isSome = true ↔ ValidMember key val := by
  rw [Option.isSome_iff_exists]
  constructor
  · rintro ⟨e, he⟩
    exact (loadEntry_eq_some_iff.mp he).1
  · intro hv
    obtain ⟨a, ha⟩ := validKey_iff.mp hv.key
    obtain ⟨fields, rfl⟩ := hv.object
    obtain ⟨name, hname, hrejects⟩ := hv.name
    unfold loadEntry
    dsimp only
    rw [ha, hname]
    dsimp only
    rw [rejectsName_eq_false_iff.mpr hrejects, if_neg Bool.false_ne_true,
      if_neg (crosshair_valid_iff.mpr hv.crosshair)]
    exact ⟨_, rfl⟩

instance (key : String) (val : Json) : Decidable (ValidMember key val) :=
  decidable_of_iff _ isSome_loadEntry_iff

/-! ## The pool -/

/-- The loop's round, for one member. -/
def loadMember (m : String × Json) : Option BotEntry := loadEntry m.1 m.2

variable {document : Json} {members : List (String × Json)}

theorem load_entries (hplayers : document.get? "players" = some (.obj members)) (now : UInt64) :
    (BotInfoStore.load (some document) now).1.entries =
      members.filterMap loadMember := by
  unfold BotInfoStore.load playersOf
  rw [Option.bind_some, hplayers]
  rfl

/-- The members that are taken, in order. -/
theorem forall₂_filterMap (members : List (String × Json)) :
    List.Forall₂ (fun m e => Describes m.1 m.2 e)
      (members.filter fun m => ValidMember m.1 m.2)
      (members.filterMap loadMember) := by
  induction members with
  | nil => exact .nil
  | cons m members ih =>
    cases he : loadMember m with
    | none =>
      have hinvalid : ¬ ValidMember m.1 m.2 := by
        rw [← isSome_loadEntry_iff]
        exact Option.not_isSome_iff_eq_none.mpr he
      rw [List.filter_cons_of_neg (by simpa using hinvalid), List.filterMap_cons_none he]
      exact ih
    | some e =>
      obtain ⟨hvalid, hdescribes⟩ := loadEntry_eq_some_iff.mp he
      rw [List.filter_cons_of_pos (by simpa using hvalid), List.filterMap_cons_some he]
      exact .cons hdescribes ih

/-- An entry comes from a member, which it describes. -/
theorem exists_of_mem_pool {e : BotEntry}
    (he : e ∈ members.filterMap loadMember) :
    ∃ m ∈ members, ValidMember m.1 m.2 ∧ Describes m.1 m.2 e := by
  obtain ⟨m, hm, hload⟩ := List.mem_filterMap.mp he
  exact ⟨m, hm, loadEntry_eq_some_iff.mp hload⟩

/-- **Distinct accounts.** Distinct keys give distinct SteamIDs. -/
theorem nodup_steamId64 (hkeys : (members.map Prod.fst).Nodup) :
    ((members.filterMap loadMember).map BotEntry.steamId64).Nodup := by
  induction members with
  | nil => exact List.nodup_nil
  | cons m members ih =>
    obtain ⟨hm, hkeys⟩ := List.nodup_cons.mp hkeys
    cases he : loadMember m with
    | none =>
      rw [List.filterMap_cons_none he]
      exact ih hkeys
    | some e =>
      rw [List.filterMap_cons_some he, List.map_cons]
      refine List.nodup_cons.mpr ⟨fun hmem => ?_, ih hkeys⟩
      obtain ⟨e', he', hsame⟩ := List.mem_map.mp hmem
      obtain ⟨m', hm', -, hd'⟩ := exists_of_mem_pool he'
      have hd := (loadEntry_eq_some_iff.mp he).2
      -- the SteamID gives back the account, and the account the key
      have haccount : e.accountId.toNat = e'.accountId.toNat := by
        have := congrArg UInt64.toNat hsame
        rw [hd.steamId64, hd'.steamId64] at this
        omega
      refine hm (List.mem_map.mpr ⟨m', hm', ?_⟩)
      rw [hd.account, hd'.account, haccount]

/-- What holds of every stored entry. -/
theorem Describes.stored {key : String} {val : Json} {e : BotEntry} (h : Describes key val e) :
    e.scoreboardFlair ≤ 65535 ∧ e.crosshairCode ≠ [0x30] ∧
      (e.clanTag.tag ≠ [] ↔ e.clanTag.groupId ≠ 0) := by
  refine ⟨?_, ?_, ?_⟩
  · have hflair := h.flair
    have hle : (e.scoreboardFlair.toNat : Int) ≤ 65535 := by
      rw [hflair]
      split
      · split <;> omega
      · omega
    exact UInt32.le_iff_toNat_le.mpr (Int.ofNat_le.mp hle)
  · rw [h.crosshair]
    split
    · split
      · exact List.cons_ne_nil _ _ |>.symm
      · assumption
    · exact List.cons_ne_nil _ _ |>.symm
  · rw [h.clanTag]
    exact parseClanTag_pair val

/-- **Loading.** The pool holds exactly the valid members, in the document's order and as
they describe themselves; an invalid member leaves no trace; and the stored entries have
distinct SteamIDs, a flair in range, no crosshair `"0"` and a clan tag only with its group. -/
theorem load_admits_valid (document : Json) (members : List (String × Json)) (now : UInt64)
    (hplayers : document.get? "players" = some (.obj members))
    (hkeys : (members.map Prod.fst).Nodup) :
    let pool := (BotInfoStore.load (some document) now).1.entries
    List.Forall₂ (fun m e => Describes m.1 m.2 e)
      (members.filter fun m => ValidMember m.1 m.2) pool ∧
    (∀ (pre post : List (String × Json)) (m : String × Json) (document' : Json),
      members = pre ++ m :: post → ¬ ValidMember m.1 m.2 →
      document'.get? "players" = some (.obj (pre ++ post)) →
      (BotInfoStore.load (some document') now).1.entries = pool) ∧
    (pool.map BotEntry.steamId64).Nodup ∧
    ∀ e ∈ pool, e.scoreboardFlair ≤ 65535 ∧ e.crosshairCode ≠ [0x30] ∧
      (e.clanTag.tag ≠ [] ↔ e.clanTag.groupId ≠ 0) := by
  dsimp only
  rw [load_entries hplayers]
  refine ⟨forall₂_filterMap members, ?_, nodup_steamId64 hkeys, fun e he => ?_⟩
  · rintro pre post m document' rfl hinvalid hplayers'
    have hnone : loadMember m = none := by
      exact Option.not_isSome_iff_eq_none.mp (mt isSome_loadEntry_iff.mp hinvalid)
    rw [load_entries hplayers', List.filterMap_append, List.filterMap_append,
      List.filterMap_cons_none hnone]
  · obtain ⟨m, -, -, hd⟩ := exists_of_mem_pool he
    exact hd.stored

/-- A document with a valid identity between a signed key and a flair beyond 32 bits. -/
def oddPlayers : List (String × Json) :=
  [("+7", .obj [("player_name", .str [0x41])]),
    ("1001", .obj [("player_name", .str [0x41]), ("crosshair_code", .str [0x30]),
      ("scoreboard_flair", .unsigned 0xFFFFFFFFFFFFFFFF)]),
    ("007", .obj [("player_name", .str [0x42])])]

theorem load_admits_valid_odd :
    ((BotInfoStore.load (some (.obj [("players", .obj oddPlayers)])) 0).1.entries.map
      BotEntry.steamId64).Nodup ∧
    oddPlayers.map (fun m => decide (ValidMember m.1 m.2)) = [false, true, false] := by
  refine ⟨(load_admits_valid (.obj [("players", .obj oddPlayers)]) oddPlayers 0 ?_ ?_).2.2.1, ?_⟩
  · rfl
  · decide
  · decide +kernel

end BotHider.Model
