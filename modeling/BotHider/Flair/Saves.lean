import BotHider.Flair.Reader
import BotHider.Flair.Texts

/-!
# BotHider — a flair document on disk is never torn

`SaveJsonAsync` writes a temporary file and moves it over the document, so whatever stops the
tool, and wherever it does, the document on disk is a whole one: the input, or one that the loop
had at a save. The loop saves every 25 updates (`FlairPopulation.Counted`), so no more than 25
are lost. A parser that reads the texts the tool writes loads the bots of the input from it.
-/

namespace BotHider.Model

/-! ## Updates and saves of the loop -/

/-- How many entries have their flair. -/
def flaired (entries : List FlairGenerator.BotEntry) : Nat :=
  entries.countP (·.scoreboardFlair.isSome)

/-- No entry from this one on has its flair yet. -/
def UnsetFrom (entries : List FlairGenerator.BotEntry) (index : Nat) : Prop :=
  Rows.Every (fun i entry => index ≤ i → entry.scoreboardFlair = none) entries

theorem flaired_modify {entries : List FlairGenerator.BotEntry} {index : Nat}
    (hunset : UnsetFrom entries index) (hlt : index < entries.length) (flair : UInt32) :
    flaired (entries.modify index ({ · with scoreboardFlair := some flair })) =
      flaired entries + 1 :=
  Rows.countP_modify (List.getElem?_eq_getElem hlt)
    (by rw [hunset index _ (List.getElem?_eq_getElem hlt) le_rfl]; rfl) rfl

theorem unsetFrom_modify {entries : List FlairGenerator.BotEntry} {index : Nat}
    (hunset : UnsetFrom entries index) (f : FlairGenerator.BotEntry → FlairGenerator.BotEntry) :
    UnsetFrom (entries.modify index f) (index + 1) :=
  hunset.modify_of (fun i _ _ hold hi => hold (by omega)) fun _ _ _ hi => by omega

theorem UnsetFrom.succ {entries : List FlairGenerator.BotEntry} {index : Nat}
    (hunset : UnsetFrom entries index) : UnsetFrom entries (index + 1) :=
  hunset.mono fun _ _ hold hi => hold (by omega)

namespace FlairPopulation

/-- What the loop has not saved yet, by its phase. -/
def Due (program : FlairPopulation) : Prop :=
  match program.phase with
  | .loop index | .attempt index _ | .awaiting index _ _ | .retrying index _ =>
    flaired program.saved + program.updated % 25 = program.updated ∧
      UnsetFrom program.entries index
  | .delaying index _ =>
    flaired program.saved + program.updated % 25 = program.updated ∧
      UnsetFrom program.entries index ∧ index < program.entries.length
  | .saving index =>
    flaired program.saved + 25 = program.updated ∧ program.updated % 25 = 0 ∧
      UnsetFrom program.entries (index + 1)
  | .finished => program.updated < flaired program.saved + 25
  | .threw => program.updated ≤ flaired program.saved + 25

/-- The updates are those that show in the entries, and what was saved is among them. -/
structure Counted (program : FlairPopulation) : Prop where
  updated : program.updated = flaired program.entries
  kept : Rows.Every (fun i entry => ∀ flair, entry.scoreboardFlair = some flair →
    ∃ entry', program.entries[i]? = some entry' ∧ entry'.scoreboardFlair = some flair)
    program.saved
  due : program.Due

variable {program : FlairPopulation}

theorem Counted.lag (h : program.Counted) :
    flaired program.entries ≤ flaired program.saved + 25 := by
  have hcount := h.updated
  have hdue := h.due
  unfold Due at hdue
  split at hdue <;> omega

/-- A phase with what is due in it can be entered at any time. -/
theorem Counted.enter (h : program.Counted) {phase : PopulatePhase}
    (hdue : Due { program with phase }) : Counted { program with phase } :=
  ⟨h.updated, h.kept, hdue⟩

/-- Everything that shows is saved. -/
theorem Counted.save (h : program.Counted) {phase : PopulatePhase}
    (hdue : Due { program with saved := program.entries, phase }) :
    Counted { program with saved := program.entries, phase } :=
  ⟨h.updated, fun _ entry hentry _ hflair => ⟨entry, hentry, hflair⟩, hdue⟩

/-- Writing the flair of an entry that has none yet. -/
theorem Counted.write (h : program.Counted) {index : Nat}
    (hsaved : flaired program.saved + program.updated % 25 = program.updated)
    (hunset : UnsetFrom program.entries index) (hlt : index < program.entries.length)
    (flair : UInt32) : (program.write index flair).Counted where
  updated := by
    show program.updated + 1 = flaired (program.entries.modify _ _)
    rw [flaired_modify hunset hlt, h.updated]
  kept := by
    intro i entry hentry flair' hflair
    obtain ⟨entry', hentry', hflair'⟩ := h.kept i entry hentry flair' hflair
    have hi : index ≠ i := by
      -- what was saved is set, so it is not the entry written now
      rintro rfl
      rw [hunset index entry' hentry' le_rfl] at hflair'
      cases hflair'
    refine ⟨entry', ?_, hflair'⟩
    show (program.entries.modify _ _)[i]? = _
    rw [List.getElem?_modify, hentry']
    exact congrArg some (if_neg hi)
  due := by
    have hnext := unsetFrom_modify hunset
      (fun entry => { entry with scoreboardFlair := some flair })
    unfold FlairPopulation.write Due
    dsimp only
    by_cases hmod : (program.updated + 1) % 25 = 0
    · rw [if_pos hmod]
      exact ⟨by omega, hmod, hnext⟩
    · rw [if_neg hmod]
      exact ⟨by omega, hnext⟩

theorem Counted.iterate (h : program.Counted) {index : Nat} (hphase : program.phase = .loop index)
    (canceled : Bool) : (program.iterate index canceled).Counted := by
  have hdue := h.due
  unfold Due at hdue
  rw [hphase] at hdue
  obtain ⟨hsaved, hunset⟩ := hdue
  unfold FlairPopulation.iterate
  split
  · refine h.enter ?_
    show program.updated < flaired program.saved + 25
    omega
  · rename_i entry hentry
    split
    · refine h.enter ?_
      show program.updated ≤ flaired program.saved + 25
      omega
    · split
      · exact h.write hsaved hunset (List.getElem?_eq_some_iff.mp hentry).1 _
      · exact h.enter ⟨hsaved, hunset⟩

theorem Counted.resume (h : program.Counted) {index attempt query : Nat}
    (hphase : program.phase = .awaiting index attempt query) {entry : FlairGenerator.BotEntry}
    (hentry : program.entries[index]? = some entry) (result : QueryResult) :
    (program.resume index attempt entry result).Counted := by
  have hdue := h.due
  unfold Due at hdue
  rw [hphase] at hdue
  obtain ⟨hsaved, hunset⟩ := hdue
  unfold FlairPopulation.resume
  split
  · exact ⟨h.updated, h.kept, hsaved, hunset, (List.getElem?_eq_some_iff.mp hentry).1⟩
  · refine h.enter ?_
    split
    · exact ⟨hsaved, hunset⟩
    · exact ⟨hsaved, hunset.succ⟩
  · refine h.enter ?_
    show program.updated ≤ flaired program.saved + 25
    omega

end FlairPopulation

namespace FlairGenerator

variable {s : FlairGenerator}

/-- Every step of the loop keeps its counts. -/
theorem counted_advance (h : s.program.Counted) (canceled ok : Bool) :
    (s.advance canceled ok).program.Counted := by
  have hle : s.program.updated ≤ flaired s.program.saved + 25 := h.updated ▸ h.lag
  have hdue := h.due
  unfold FlairPopulation.Due at hdue
  unfold advance
  split
  · rename_i hphase
    exact h.iterate hphase canceled
  · rename_i index attempt hphase
    rw [hphase] at hdue
    split
    · exact h
    · split
      · exact h.enter hdue
      · exact h.enter ⟨hdue.1, hdue.2.succ⟩
  · rename_i index attempt query hphase
    split
    · rename_i entry _ _ result hentry _
      exact h.resume hphase hentry result
    · exact h
  · rename_i index attempt hphase
    rw [hphase] at hdue
    refine h.enter ?_
    cases canceled with
    | true => exact hle
    | false => exact hdue
  · rename_i index flair hphase
    rw [hphase] at hdue
    split
    · exact h.enter hle
    · exact h.write hdue.1 hdue.2.1 hdue.2.2 flair
  · rename_i index hphase
    rw [hphase] at hdue
    split
    · refine h.save ⟨?_, hdue.2.2⟩
      show flaired s.program.entries + s.program.updated % 25 = s.program.updated
      have hcount := h.updated
      omega
    · exact h.enter hle
  · rename_i hphase
    split
    · refine ⟨h.updated, fun _ entry hentry _ hflair => ⟨entry, hentry, hflair⟩, ?_⟩
      unfold FlairPopulation.Due
      dsimp only
      rw [hphase]
      show s.program.updated < flaired s.program.entries + 25
      have hcount := h.updated
      omega
    · exact h
  · exact h

end FlairGenerator

theorem counted_start (accountIds : List UInt32) :
    (FlairGenerator.start accountIds).program.Counted where
  updated := by
    refine Eq.symm (List.countP_eq_zero.mpr fun entry hentry => ?_)
    obtain ⟨accountId, -, rfl⟩ := List.mem_map.mp hentry
    exact Bool.false_ne_true
  kept := Rows.every_nil
  due := by
    refine ⟨rfl, fun i entry hentry _ => ?_⟩
    obtain ⟨accountId, -, rfl⟩ := List.mem_map.mp (List.mem_of_getElem? hentry)
    rfl

/-! ## Saves of the tool -/

namespace FlairTool

/-- What a save has done to the temporary file so far. -/
def Saving (run : FlairRun) (files : FlairFiles) (s : FlairTool) : Prop :=
  let json := run.text (flairDocument run.input run.rows s.generator.program.entries)
  match s.save with
  | none => s.generator.program.phase ≠ .threw → s.exit = none →
    s.files.temporaryPath = none ∨ s.files.temporaryPath = files.temporaryPath
  | some (.writing written) =>
    s.savesNow = true ∧ s.files.temporaryPath = some (json.take written)
  | some .moving => s.savesNow = true ∧ s.files.temporaryPath = some json
  | some .cleaning => s.savesNow = true

/-- The document on disk is the one that was saved last, or the one that was there. -/
structure Whole (run : FlairRun) (files : FlairFiles) (s : FlairTool) : Prop where
  path : s.generator.program.saved = [] ∧ s.files.path = files.path ∨
    s.files.path =
      some (run.text (flairDocument run.input run.rows s.generator.program.saved))
  exit : s.exit = some true → s.generator.program.saved = s.generator.program.entries
  saving : s.Saving run files

variable {run : FlairRun} {files : FlairFiles} {s : FlairTool}

theorem savesNow_cases (h : s.savesNow = true) :
    (∃ index, s.generator.program.phase = .saving index) ∨
      s.generator.program.phase = .finished ∧ s.exit = none := by
  unfold savesNow at h
  split at h
  · rename_i index hphase
    exact Or.inl ⟨index, hphase⟩
  · rename_i hphase
    exact Or.inr ⟨hphase, Option.isNone_iff_eq_none.mp h⟩
  · cases h

/-- Where no save is due and `Main` is not past its last one, the loop saves nothing. -/
theorem saved_of_not_savesNow (h : s.savesNow = false) (hexit : s.exit = none)
    (canceled ok : Bool) :
    (s.generator.advance canceled ok).program.saved = s.generator.program.saved ∧
      (s.generator.program.phase = .threw →
        (s.generator.advance canceled ok).program.phase = .threw) := by
  unfold savesNow at h
  rw [hexit] at h
  unfold FlairGenerator.advance FlairPopulation.iterate FlairPopulation.resume
    FlairPopulation.write
  grind

theorem advance_saving {g : FlairGenerator} {index : Nat} (h : g.program.phase = .saving index)
    (ok : Bool) :
    g.advance false ok = { g with program := if ok then
      { g.program with saved := g.program.entries, phase := .loop (index + 1) }
      else { g.program with phase := .threw } } := by
  unfold FlairGenerator.advance
  rw [h]
  cases ok <;> rfl

theorem advance_finished {g : FlairGenerator} (h : g.program.phase = .finished) (ok : Bool) :
    g.advance false ok = { g with program := if ok then
      { g.program with saved := g.program.entries } else g.program } := by
  unfold FlairGenerator.advance
  rw [h]
  cases ok <;> rfl

/-- A save that comes back leaves its document on disk when it went through, and else what was
there. -/
theorem Whole.returned (h : s.Whole run files) (hsaves : s.savesNow = true)
    (hexit : s.exit = none) {ok : Bool} {disk : FlairFiles}
    (hpath : disk.path = if ok then
        some (run.text (flairDocument run.input run.rows s.generator.program.entries))
      else s.files.path)
    (htemporary : ok = true → disk.temporaryPath = none) :
    (saveReturned { s with files := disk } ok).Whole run files := by
  rcases savesNow_cases hsaves with ⟨index, hphase⟩ | ⟨hphase, -⟩
  · -- a save of the loop, which goes on or throws
    unfold saveReturned
    dsimp only
    rw [advance_saving hphase, hphase, hexit]
    cases ok with
    | true => exact ⟨Or.inr hpath, nofun, fun _ _ => Or.inl (htemporary rfl)⟩
    | false =>
      refine ⟨?_, nofun, fun hthrew => absurd rfl hthrew⟩
      show _ ∧ disk.path = _ ∨ disk.path = _
      rw [hpath]
      exact h.path
  · -- the save of `Main`, after which the tool ends
    unfold saveReturned
    dsimp only
    rw [advance_finished hphase, hphase]
    cases ok with
    | true => exact ⟨Or.inr hpath, fun _ => rfl, fun _ hnone => nomatch hnone⟩
    | false =>
      refine ⟨?_, nofun, fun _ hnone => nomatch hnone⟩
      show _ ∧ disk.path = _ ∨ disk.path = _
      rw [hpath]
      exact h.path

theorem Whole.saveStep (h : s.Whole run files) (hsaves : s.savesNow = true)
    (hexit : s.exit = none) (ok : Bool) (bytes : Nat) :
    (saveStep run s ok bytes).Whole run files := by
  have hsaving := h.saving
  unfold Saving at hsaving
  unfold FlairTool.saveStep
  dsimp only
  split
  · cases ok with
    | true => exact ⟨h.path, h.exit, hsaves, rfl⟩
    | false => exact ⟨h.path, h.exit, hsaves⟩
  · rename_i written hsave
    cases ok with
    | true =>
      rw [if_pos rfl]
      by_cases hlt : written + bytes < (run.text (flairDocument run.input run.rows
          s.generator.program.entries)).length
      · rw [if_pos hlt]
        exact ⟨h.path, h.exit, hsaves, rfl⟩
      · rw [if_neg hlt]
        exact ⟨h.path, h.exit, hsaves, congrArg some (List.take_of_length_le (by omega))⟩
    | false => exact ⟨h.path, h.exit, hsaves⟩
  · rename_i hsave
    rw [hsave] at hsaving
    cases ok with
    | true => exact h.returned hsaves hexit hsaving.2 fun _ => rfl
    | false => exact ⟨h.path, h.exit, hsaves⟩
  · cases ok with
    | true => exact h.returned hsaves hexit rfl fun hok => nomatch hok
    | false => exact h.returned hsaves hexit rfl fun hok => nomatch hok

theorem Whole.step (h : s.Whole run files) (e : ToolEvent) : (s.step run e).Whole run files := by
  unfold FlairTool.step
  split
  · exact h
  · rename_i hrunning
    have hexit : s.exit = none := by simpa using hrunning
    cases e with
    | generator event =>
      cases event with
      | client event => exact ⟨h.path, h.exit, h.saving⟩
      | program canceled ok =>
        dsimp only
        split
        · exact h
        · rename_i hidle
          rw [Bool.not_eq_true] at hidle
          obtain ⟨hkept, hthrew⟩ := saved_of_not_savesNow hidle hexit canceled ok
          have hnone : s.save = none := by
            have hsaving := h.saving
            unfold Saving at hsaving
            cases hsave : s.save with
            | none => rfl
            | some phase =>
              -- a save under way is one that is due
              rw [hsave] at hsaving
              cases phase with
              | writing | moving => exact absurd (hidle.symm.trans hsaving.1) Bool.false_ne_true
              | cleaning => exact absurd (hidle.symm.trans hsaving) Bool.false_ne_true
          have hsaving := h.saving
          unfold Saving at hsaving
          rw [hnone] at hsaving
          refine ⟨?_, fun htrue => ?_, ?_⟩
          · show (s.generator.advance canceled ok).program.saved = [] ∧ _ ∨ _ = some (run.text
              (flairDocument run.input run.rows (s.generator.advance canceled ok).program.saved))
            rw [hkept]
            exact h.path
          · exact nomatch hexit.symm.trans htrue
          · unfold Saving
            dsimp only
            rw [hnone]
            exact fun hphase hexit => hsaving (fun hold => hphase (hthrew hold)) hexit
    | save ok bytes =>
      dsimp only
      split
      · rename_i hsaves
        exact h.saveStep hsaves hexit ok bytes
      · exact h

/-- A step of the tool is one of its generator, or leaves it. -/
theorem generator_step (run : FlairRun) (s : FlairTool) (e : ToolEvent) :
    (s.step run e).generator = s.generator ∨
      ∃ event, (s.step run e).generator = s.generator.step event ∧
        ∀ call, event = .client call → e = .generator (.client call) := by
  unfold FlairTool.step
  split
  · exact Or.inl rfl
  · cases e with
    | generator event =>
      cases event with
      | client call =>
        exact Or.inr ⟨.client call, rfl, fun call' hcall => by rw [FlairEvent.client.inj hcall]⟩
      | program canceled ok =>
        dsimp only
        split
        · exact Or.inl rfl
        · exact Or.inr ⟨.program canceled ok, rfl, fun _ h => nomatch h⟩
    | save ok bytes =>
      unfold saveStep saveReturned
      dsimp only
      split
      · split
        · cases ok <;> exact Or.inl rfl
        · cases ok <;> exact Or.inl rfl
        · cases ok with
          | true => exact Or.inr ⟨.program false true, rfl, fun _ h => nomatch h⟩
          | false => exact Or.inl rfl
        · cases ok <;> exact Or.inr ⟨.program false false, rfl, fun _ h => nomatch h⟩
      · exact Or.inl rfl

end FlairTool

theorem FlairTool.whole_start (run : FlairRun) (files : FlairFiles) :
    (FlairTool.start run files).Whole run files where
  path := Or.inl ⟨rfl, rfl⟩
  exit := fun h => by
    cases hrows : run.rows with
    | nil =>
      unfold FlairTool.start FlairGenerator.start
      rw [hrows]
      rfl
    | cons row rows =>
      unfold FlairTool.start at h
      rw [hrows] at h
      cases h
  saving := fun _ _ => Or.inr rfl

/-! ## Runs -/

/-- What holds of the generator along every run of the tool. -/
structure FlairTool.Sound (R : PlayersProfile → Prop) (run : FlairRun) (g : FlairGenerator) :
    Prop where
  sound : g.Sound R (run.rows.map (·.accountId))
  rows : RowsOf run.rows g.program.saved
  counted : g.program.Counted

theorem FlairTool.Sound.step {R : PlayersProfile → Prop} {run : FlairRun} {g : FlairGenerator}
    (h : FlairTool.Sound R run g) {event : FlairEvent}
    (hevent : ∀ call, event = .client call → Cs2GcClient.Brings R call) :
    FlairTool.Sound R run (g.step event) := by
  refine ⟨h.sound.step hevent, ?_, ?_⟩
  · cases event with
    | client call => exact h.rows
    | program canceled ok =>
      rcases saved_advance g canceled ok with hkept | hnew
      · exact (congrArg (RowsOf run.rows) hkept).mpr h.rows
      · exact (congrArg (RowsOf run.rows) hnew).mpr (Or.inr h.sound.accounts)
  · cases event with
    | client call => exact h.counted
    | program canceled ok => exact FlairGenerator.counted_advance h.counted canceled ok

/-- **Saves.** Wherever a run of the tool stops, with whatever calls of the file system failing,
`bot_info.json` is what it was or the text of a document of the loop. A plugin whose parser
reads back the texts of `ToJsonString`, and has read the input from the file as it was, loads
the same bots from the file as it is; no save takes a flair back, at most 25 updates are not on
disk, none after a run that ends well, and between saves there is no temporary file of the
tool's. -/
theorem disk_never_torn {run : FlairRun} {overwrite : Bool} {parse : Bytes → Option Json}
    (hparse : ∀ root : Json, root.WellFormed → parse (run.text root) = some root.sorted)
    (hinput : run.input.WellFormed) (hread : readEntries run.input overwrite = .ok run.rows)
    {files : FlairFiles} (hfile : files.path.bind parse = some run.input.sorted)
    (es : List ToolEvent) (now : UInt64) :
    let s := Runs.exec (FlairTool.step run) (.start run files) es
    let program := s.generator.program
    let Came := Delivered fun response => .generator (.client (.respond response)) ∈ es
    let document := flairDocument run.input run.rows program.saved
    (program.saved = [] ∧ s.files.path = files.path ∨ s.files.path = some (run.text document)) ∧
      List.Forall₂ (SamePersona overwrite Came)
        (BotInfoStore.load (files.path.bind parse) now).1.entries
        (BotInfoStore.load (s.files.path.bind parse) now).1.entries ∧
      (∀ (i : Nat) entry flair, program.saved[i]? = some entry →
        entry.scoreboardFlair = some flair →
        ∃ entry', program.entries[i]? = some entry' ∧ entry'.scoreboardFlair = some flair) ∧
      flaired program.entries ≤ flaired program.saved + 25 ∧
      (s.exit = some true → program.saved = program.entries) ∧
      (s.save = none → program.phase ≠ .threw → s.exit = none →
        s.files.temporaryPath = none ∨ s.files.temporaryPath = files.temporaryPath) := by
  intro s program Came document
  have hbrings : Runs.Admits (FlairTool.step run) (fun _ e => ∀ call,
      e = .generator (.client call) → Cs2GcClient.Brings
        (fun response => .generator (.client (.respond response)) ∈ es) call)
      (.start run files) es := by
    refine Runs.admits_of_forall fun _ e he call hcall => ?_
    subst hcall
    cases call with
    | respond response => exact he
    | request | send | wait | leave | complete | failSession => trivial
  obtain ⟨hsound, hwhole⟩ : FlairTool.Sound
      (fun response => .generator (.client (.respond response)) ∈ es) run s.generator ∧
      s.Whole run files := by
    refine Runs.exec_invariant (I := fun s : FlairTool => FlairTool.Sound
        (fun response => .generator (.client (.respond response)) ∈ es) run s.generator ∧
        s.Whole run files)
      ⟨⟨FlairGenerator.sound_start _, Or.inl rfl, counted_start _⟩,
        FlairTool.whole_start run files⟩
      (fun s e h he => ⟨?_, h.2.step e⟩) hbrings
    rcases s.generator_step run e with hkept | ⟨event, hstep, hcall⟩
    · rw [hkept]
      exact h.1
    · rw [hstep]
      exact h.1.step fun call hevent => he call (hcall call hevent)
  have hdocument : document.WellFormed := wellFormed_flairDocument hinput _ _
  -- what the plugin reads is the document, also where nothing was saved yet
  have hloaded : s.files.path.bind parse = some document.sorted := by
    rcases hwhole.path with ⟨hnone, hpath⟩ | hpath
    · have hsame : document = run.input := by
        show flairDocument run.input run.rows s.generator.program.saved = run.input
        rw [hnone]
        exact flairDocument_nil run.input run.rows
      rw [hpath, hfile, hsame]
    · rw [hpath]
      exact hparse document hdocument
  refine ⟨hwhole.path, ?_,
    fun i entry flair hentry => hsound.counted.kept i entry hentry flair, hsound.counted.lag,
    hwhole.exit, fun hnone => ?_⟩
  · rw [hfile, hloaded, load_sorted hinput, load_sorted hdocument]
    exact forall₂_load now (document_of_own hread hsound.rows hsound.sound.saved)
  · have hsaving := hwhole.saving
    unfold FlairTool.Saving at hsaving
    rwa [hnone] at hsaving

/-! ### The two players, saved -/

def twoPlayersRun : FlairRun where
  input := twoPlayers
  rows := [{ row := 0, accountId := 1001 }]
  options := { newLine := .lf, escapes := fun _ => false }

/-- The file of the two players, with what follows the name of the first. -/
def twoPlayersText (flair : String) : Bytes :=
  Utf8.encode ("\x7b\n" ++
    "    \"players\": \x7b\n" ++
    "        \"1001\": \x7b\n" ++
    "            \"player_name\": \"A\"" ++ flair ++ "\n" ++
    "        \x7d,\n" ++
    "        \"1002\": \x7b\n" ++
    "            \"player_name\": \"B\",\n" ++
    "            \"scoreboard_flair\": 7\n" ++
    "        \x7d\n" ++
    "    \x7d\n" ++
    "\x7d\n").toList

/-- The flair that the first player got. -/
def flairLine : String := ",\n            \"scoreboard_flair\": 970"

/-- The answer, the end of the loop, and the last save. -/
def oneFlairSaved : List ToolEvent :=
  oneFlair.map .generator ++
    [.generator (.program false true), .save true 0, .save true 400, .save true 0]

theorem wellFormed_twoPlayers : twoPlayers.WellFormed :=
  ⟨by decide, ⟨⟨by decide, ⟨⟨by decide, ⟨['A'], rfl⟩, trivial⟩,
    ⟨by decide, ⟨['B'], rfl⟩, trivial, trivial⟩, trivial⟩⟩, trivial⟩⟩

/-- The file before the run, with no temporary file next to it. -/
def twoPlayersFiles : FlairFiles := { path := some (twoPlayersText ""), temporaryPath := none }

theorem disk_never_torn_twoPlayers :
    let s := Runs.exec (FlairTool.step twoPlayersRun) (.start twoPlayersRun twoPlayersFiles)
      oneFlairSaved
    s.exit = some true ∧ s.files.path = some (twoPlayersText flairLine) ∧
      List.Forall₂ (SamePersona false (Delivered fun response =>
          .generator (.client (.respond response)) ∈ oneFlairSaved))
        (BotInfoStore.load (readJson (twoPlayersText "")) 1).1.entries
        (BotInfoStore.load (readJson (twoPlayersText flairLine)) 1).1.entries := by
  have hpath : (Runs.exec (FlairTool.step twoPlayersRun) (.start twoPlayersRun twoPlayersFiles)
      oneFlairSaved).files.path = some (twoPlayersText flairLine) := by decide +kernel
  have hbefore : twoPlayersFiles.path = some (twoPlayersText "") := rfl
  have hinput : twoPlayersText "" = twoPlayersRun.text twoPlayers := by decide +kernel
  have hparse : ∀ root : Json, root.WellFormed →
      readJson (twoPlayersRun.text root) = some root.sorted := fun _ h =>
    readJson_toJsonString twoPlayersRun.options h
  have hfile : twoPlayersFiles.path.bind readJson = some twoPlayers.sorted := by
    rw [hbefore, hinput, Option.bind_some]
    exact hparse twoPlayers wellFormed_twoPlayers
  have hsame := (@disk_never_torn twoPlayersRun false readJson hparse wellFormed_twoPlayers rfl
    twoPlayersFiles hfile oneFlairSaved 1).2.1
  rw [hbefore, hpath, Option.bind_some, Option.bind_some] at hsame
  exact ⟨by decide +kernel, hpath, hsame⟩

end BotHider.Model
