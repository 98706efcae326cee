import BotHider.Model.Permissions

/-!
# BotHider — permissions fail closed

`LoadCommandPermissions` sets the restricted default before it reads anything, so whatever
goes wrong on the way leaves it in place. Commands are open to every player for the
configurations of `OpenConfig` only: no file, or a document that says so in the right shape.
-/

namespace BotHider.Model

/-! ## Documents -/

/-- The last member of a name holds `value`. -/
def Holds (members : List (JsonName × JsonElement)) (name : String) (value : JsonElement) : Prop :=
  ∃ before after, members = before ++ (.text (utf16 name), value) :: after ∧
    ∀ m ∈ after, m.1 ≠ .text (utf16 name)

/-- No member has the name. -/
def Lacks (members : List (JsonName × JsonElement)) (name : String) : Prop :=
  ∀ m ∈ members, m.1 ≠ .text (utf16 name)

/-- A permission flag: `@domain/name`, without whitespace. -/
def ValidFlag (flag : Utf16) : Prop :=
  ∃ domain name, flag = kAt :: domain ++ kSlash :: name ∧ domain ≠ [] ∧ kSlash ∉ domain ∧
    name ≠ [] ∧ ∀ c ∈ flag, isWhiteSpace c = false

/-- The `commands` member leaves commands open. -/
structure OpenCommands (commands : List (JsonName × JsonElement)) : Prop where
  require : Lacks commands "require_permissions" ∨
    Holds commands "require_permissions" (.bool false)
  permission : Lacks commands "permission" ∨
    ∃ flag, Holds commands "permission" (.string (some flag)) ∧ ValidFlag flag

/-- The configuration leaves commands open to every player. -/
def OpenConfig (read : Except ConfigException Utf16)
    (parse : Utf16 → Except ConfigException JsonElement) : Prop :=
  read = .error .fileNotFound ∨ read = .error .directoryNotFound ∨
    ∃ text members, read = .ok text ∧ parse text = .ok (.object members) ∧
      (Lacks members "commands" ∨
        ∃ commands, Holds members "commands" (.object commands) ∧ OpenCommands commands)

/-- The configuration names a flag. -/
def Configures (read : Except ConfigException Utf16)
    (parse : Utf16 → Except ConfigException JsonElement) (flag : Utf16) : Prop :=
  ∃ text members commands, read = .ok text ∧ parse text = .ok (.object members) ∧
    Holds members "commands" (.object commands) ∧ Holds commands "permission" (.string (some flag))

/-! ## Lookup -/

theorem equals_eq_ok {key : JsonName} {name : Utf16} {b : Bool} (h : key.equals name = .ok b) :
    b = true ↔ key = .text name := by
  cases key with
  | text t =>
    cases h
    simp
  | broken reached =>
    unfold JsonName.equals at h
    dsimp only at h
    split at h
    · cases h
    · cases h
      exact iff_of_false Bool.false_ne_true nofun

/-- What the search finds is the first of the name, and nothing is found where there is
none. -/
theorem findProperty_eq_ok {name : Utf16} {members : List (JsonName × JsonElement)}
    {found : Option JsonElement} (h : findProperty name members = .ok found) :
    match found with
    | none => ∀ m ∈ members, m.1 ≠ .text name
    | some value => ∃ before after, members = before ++ (.text name, value) :: after ∧
        ∀ m ∈ before, m.1 ≠ .text name := by
  induction members with
  | nil =>
    cases h
    simp
  | cons m members ih =>
    obtain ⟨key, value⟩ := m
    unfold findProperty at h
    split at h
    · cases h
    · rename_i hkey
      cases h
      obtain rfl := (equals_eq_ok hkey).mp rfl
      exact ⟨[], members, rfl, by simp⟩
    · rename_i hkey
      have hne : key ≠ .text name := fun heq =>
        Bool.false_ne_true ((equals_eq_ok hkey).mpr heq)
      have hrest := ih h
      cases found with
      | none => exact List.forall_mem_cons.mpr ⟨hne, hrest⟩
      | some v =>
        obtain ⟨before, after, rfl, hbefore⟩ := hrest
        exact ⟨(key, value) :: before, after, rfl, List.forall_mem_cons.mpr ⟨hne, hbefore⟩⟩

variable {members commands : List (JsonName × JsonElement)} {name : String}

theorem lacks_of_tryGetProperty (h : tryGetProperty members name = .ok none) :
    Lacks members name := fun m hm => findProperty_eq_ok h m (List.mem_reverse.mpr hm)

theorem holds_of_tryGetProperty {value : JsonElement}
    (h : tryGetProperty members name = .ok (some value)) : Holds members name value := by
  obtain ⟨before, after, hsplit, hbefore⟩ := findProperty_eq_ok h
  refine ⟨after.reverse, before.reverse, ?_, fun m hm => hbefore m (List.mem_reverse.mp hm)⟩
  rw [← List.reverse_reverse members, hsplit]
  simp

/-! ## Flags -/

/-- The index of a character splits the string at its first occurrence. -/
theorem idxOf?_eq_some_iff {s : Utf16} {c : UInt16} {i : Nat} :
    s.idxOf? c = some i ↔ ∃ before after, s = before ++ c :: after ∧ c ∉ before ∧
      before.length = i := by
  induction s generalizing i with
  | nil => simp
  | cons first rest ih =>
    rw [List.idxOf?_cons]
    by_cases hfirst : first = c
    · subst hfirst
      rw [if_pos (beq_self_eq_true first), Option.some_inj]
      constructor
      · rintro rfl
        exact ⟨[], rest, rfl, List.not_mem_nil, rfl⟩
      · rintro ⟨before, after, hsplit, hnot, rfl⟩
        cases before with
        | nil => rfl
        | cons b before =>
          obtain ⟨rfl, -⟩ := List.cons.inj hsplit
          exact absurd List.mem_cons_self hnot
    · rw [if_neg (by simpa using hfirst), Option.map_eq_some_iff]
      constructor
      · rintro ⟨j, hj, rfl⟩
        obtain ⟨before, after, rfl, hnot, rfl⟩ := ih.mp hj
        refine ⟨first :: before, after, rfl, ?_, rfl⟩
        rw [List.mem_cons, not_or]
        exact ⟨Ne.symm hfirst, hnot⟩
      · rintro ⟨before, after, hsplit, hnot, rfl⟩
        cases before with
        | nil => exact absurd (List.cons.inj hsplit).1 hfirst
        | cons b before =>
          obtain ⟨-, hrest⟩ := List.cons.inj hsplit
          exact ⟨before.length, ih.mpr ⟨before, after, hrest, fun h =>
            hnot (List.mem_cons_of_mem b h), rfl⟩, rfl⟩

theorem rejectsFlag_eq_false {flag : Utf16} : rejectsFlag flag = false ↔
    4 ≤ flag.length ∧ flag[0]? = some kAt ∧ (∃ i : Nat, flag.idxOf? kSlash = some i ∧ 2 ≤ i ∧
      i + 1 ≠ flag.length) ∧ ∀ c ∈ flag, isWhiteSpace c = false := by
  have hsep : (¬ indexOf flag kSlash < 2 ∧ indexOf flag kSlash ≠ (flag.length : Int) - 1) ↔
      ∃ i : Nat, flag.idxOf? kSlash = some i ∧ 2 ≤ i ∧ i + 1 ≠ flag.length := by
    unfold indexOf
    cases flag.idxOf? kSlash with
    | none => simp
    | some i =>
      simp only [Option.some_inj, exists_eq_left']
      omega
  rw [← hsep]
  unfold rejectsFlag
  simp [List.any_eq_false, and_assoc]

/-- The index arithmetic accepts exactly the flags of the grammar. -/
theorem rejectsFlag_eq_false_iff {flag : Utf16} : rejectsFlag flag = false ↔ ValidFlag flag := by
  rw [rejectsFlag_eq_false]
  constructor
  · rintro ⟨-, hat, ⟨i, hi, htwo, hlast⟩, hspace⟩
    -- the first separator splits the flag into its domain and its name
    obtain ⟨before, name, rfl, hnot, rfl⟩ := idxOf?_eq_some_iff.mp hi
    cases before with
    | nil => exact absurd htwo (by decide)
    | cons first domain =>
      obtain rfl : first = kAt := Option.some.inj hat
      refine ⟨domain, name, rfl, ?_, fun h => hnot (List.mem_cons_of_mem _ h), ?_, hspace⟩
      · rintro rfl
        exact absurd htwo (by decide)
      · rintro rfl
        exact hlast (by simp)
  · rintro ⟨domain, name, rfl, hdomain, hnot, hname, hspace⟩
    have hd := List.length_pos_iff.mpr hdomain
    have hn := List.length_pos_iff.mpr hname
    refine ⟨?_, rfl, ⟨(kAt :: domain).length, ?_, ?_, ?_⟩, hspace⟩
    · simp only [List.length_cons, List.length_append]
      omega
    · refine idxOf?_eq_some_iff.mpr ⟨kAt :: domain, name, rfl, ?_, rfl⟩
      rw [List.mem_cons, not_or]
      exact ⟨by decide, hnot⟩
    · rw [List.length_cons]
      omega
    · simp only [List.length_cons, List.length_append]
      omega

/-! ## Loading -/

theorem readRequirePermissions_eq_false (h : readRequirePermissions commands = .ok false) :
    Lacks commands "require_permissions" ∨ Holds commands "require_permissions" (.bool false) := by
  unfold readRequirePermissions at h
  split at h
  · cases h
  · exact Or.inl (lacks_of_tryGetProperty ‹_›)
  · rename_i hfound
    cases h
    exact Or.inr (holds_of_tryGetProperty hfound)
  · cases h

/-- A flag that was read is the default of a document without one, or valid. -/
theorem readPermission_eq_ok {permission : Utf16} (h : readPermission commands = .ok permission) :
    Lacks commands "permission" ∧ permission = kDefaultPermission ∨
      Holds commands "permission" (.string (some permission)) ∧ ValidFlag permission := by
  unfold readPermission at h
  split at h
  · cases h
  · cases h
    exact Or.inl ⟨lacks_of_tryGetProperty ‹_›, rfl⟩
  · cases h
  · rename_i hfound
    split at h
    · cases h
    · rename_i hok
      cases h
      exact Or.inr ⟨holds_of_tryGetProperty hfound,
        rejectsFlag_eq_false_iff.mp (Bool.eq_false_iff.mpr hok)⟩
  · cases h

/-- What a `commands` object that loads gives. -/
theorem readCommands_eq_ok {config : CommandPermissionsConfig}
    (h : readCommands commands = .ok config) :
    (config.requirePermissions = false → OpenCommands commands) ∧
      (config.permission = kDefaultPermission ∨
        Holds commands "permission" (.string (some config.permission)) ∧
          ValidFlag config.permission) := by
  unfold readCommands at h
  cases hrequire : readRequirePermissions commands with
  | error e =>
    rw [hrequire] at h
    cases h
  | ok requirePermissions =>
    cases hpermission : readPermission commands with
    | error e =>
      rw [hrequire, hpermission] at h
      cases h
    | ok permission =>
      rw [hrequire, hpermission] at h
      cases h
      have hflag := readPermission_eq_ok hpermission
      refine ⟨?_, hflag.imp And.right id⟩
      rintro rfl
      exact ⟨readRequirePermissions_eq_false hrequire,
        hflag.imp And.left fun h => ⟨permission, h⟩⟩

/-- What a configuration that loads gives. -/
theorem load_eq_ok {read : Except ConfigException Utf16}
    {parse : Utf16 → Except ConfigException JsonElement} {config : CommandPermissionsConfig}
    (h : CommandPermissionsConfig.load read parse = .ok config) :
    (config.requirePermissions = false → OpenConfig read parse) ∧
      (config.permission = kDefaultPermission ∨
        Configures read parse config.permission ∧ ValidFlag config.permission) := by
  unfold CommandPermissionsConfig.load at h
  split at h
  · -- there is no file
    cases h
    exact ⟨fun _ => Or.inl rfl, Or.inl rfl⟩
  · -- there is no directory
    cases h
    exact ⟨fun _ => Or.inr (Or.inl rfl), Or.inl rfl⟩
  · cases h
  · rename_i text
    cases hparse : parse text with
    | error e =>
      rw [hparse] at h
      cases h
    | ok root =>
      rw [hparse] at h
      change readRoot root = .ok config at h
      unfold readRoot at h
      split at h
      · rename_i members
        split at h
        · cases h
        · -- the object has no commands
          rename_i hfound
          cases h
          exact ⟨fun _ => Or.inr (Or.inr ⟨text, members, rfl, hparse,
            Or.inl (lacks_of_tryGetProperty hfound)⟩), Or.inl rfl⟩
        · rename_i commands hfound
          have hholds := holds_of_tryGetProperty hfound
          obtain ⟨hopen, hflag⟩ := readCommands_eq_ok h
          exact ⟨fun hpublic => Or.inr (Or.inr ⟨text, members, rfl, hparse,
            Or.inr ⟨commands, hholds, hopen hpublic⟩⟩),
            hflag.imp_right fun hf => ⟨⟨text, members, commands, rfl, hparse, hholds, hf.1⟩, hf.2⟩⟩
        · cases h
      · cases h

/-! ## The decision -/

theorem canExecuteCommand_restricted {permissions : CommandPermissionsConfig}
    (h : permissions.requirePermissions = true) (player : CommandPlayer) :
    (canExecuteCommand permissions (some player)).1 = true ↔
      player.isValid = true ∧ player.authorizedSteamId.isSome = true ∧
        (player.hasPermissions (utf16 "@css/root") = true ∨
          player.hasPermissions (utf16 "@css/admin") = true ∨
          player.hasPermissions permissions.permission = true) := by
  unfold canExecuteCommand
  dsimp only
  rw [h, if_neg (by decide)]
  split
  · rename_i hall
    simpa using hall
  · rename_i hnot
    refine iff_of_false Bool.false_ne_true fun hall => hnot ?_
    simpa using hall

/-- **Permissions fail closed.** Whatever reading and parsing the configuration gave, commands
are unrestricted after `LoadCommandPermissions` for an `OpenConfig` only; in every other case
exactly the valid, authorized players with `@css/root`, `@css/admin` or the flag in use may
execute one. That flag is the default, or the configured one and valid. -/
theorem permissions_fail_closed (read : Except ConfigException Utf16)
    (parse : Utf16 → Except ConfigException JsonElement) :
    let permissions := (loadCommandPermissions read parse).1
    (permissions.requirePermissions = false → OpenConfig read parse) ∧
    (permissions.permission = kDefaultPermission ∨
      Configures read parse permissions.permission ∧ ValidFlag permissions.permission) ∧
    ∀ player : CommandPlayer, ¬ OpenConfig read parse →
      ((canExecuteCommand permissions (some player)).1 = true ↔
        player.isValid = true ∧ player.authorizedSteamId.isSome = true ∧
          (player.hasPermissions (utf16 "@css/root") = true ∨
            player.hasPermissions (utf16 "@css/admin") = true ∨
            player.hasPermissions permissions.permission = true)) := by
  have hspec : ((loadCommandPermissions read parse).1.requirePermissions = false →
      OpenConfig read parse) ∧
      ((loadCommandPermissions read parse).1.permission = kDefaultPermission ∨
        Configures read parse (loadCommandPermissions read parse).1.permission ∧
          ValidFlag (loadCommandPermissions read parse).1.permission) := by
    unfold loadCommandPermissions
    cases hload : CommandPermissionsConfig.load read parse with
    | error e => exact ⟨nofun, Or.inl rfl⟩
    | ok config => exact load_eq_ok hload
  refine ⟨hspec.1, hspec.2, fun player hclosed => canExecuteCommand_restricted ?_ player⟩
  exact eq_true_of_ne_false fun hopen => hclosed (hspec.1 hopen)

/-- A flag whose name is missing is refused, and the commands with it restricted. -/
example : (loadCommandPermissions (.ok []) fun _ => .ok (.object
    [(.text (utf16 "commands"), .object
      [(.text (utf16 "permission"), .string (some (utf16 "@bothider/")))])])).1 =
    { requirePermissions := true } := by decide

end BotHider.Model
