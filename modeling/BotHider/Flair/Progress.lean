import BotHider.Flair.Saves
import BotHider.Lib.Budget

/-!
# BotHider — the flair generator ends

Each entry costs the loop at most three requests and twelve steps, whatever comes back, and the
loop is never stuck but in a call that is not back. An account that has answered once is not
asked again.
-/

namespace BotHider.Model

deriving instance DecidableEq for PopulatePhase

/-! ## Where the loop is -/

/-- The entry of a phase is there, and no attempt is beyond the third. -/
def PopulatePhase.Placed (entries : Nat) : PopulatePhase → Prop
  | .loop index => index ≤ entries
  | .attempt index tries | .awaiting index tries _ => index < entries ∧ 1 ≤ tries ∧ tries ≤ 3
  | .retrying index tries => index < entries ∧ 1 ≤ tries ∧ tries < 3
  | .delaying index _ | .saving index => index < entries
  | .finished | .threw => True

/-- The account of the entry that a phase asks for. -/
def FlairPopulation.asked (program : FlairPopulation) : Option UInt32 :=
  match program.phase with
  | .attempt index _ | .awaiting index _ _ | .retrying index _ =>
    program.entries[index]?.map (·.accountId)
  | _ => none

/-- The steps that a phase may still take. -/
def PopulatePhase.steps (entries : Nat) : PopulatePhase → Nat
  | .loop index => 12 * (entries - index) + 1
  | .attempt index tries => 12 * (entries - index) + 3 - 3 * tries
  | .awaiting index tries _ => 12 * (entries - index) + 2 - 3 * tries
  | .retrying index tries => 12 * (entries - index) + 1 - 3 * tries
  | .delaying index _ => 12 * (entries - index) - 8
  | .saving index => 12 * (entries - index) - 9
  | .finished | .threw => 0

/-- The requests that a phase may still make. -/
def PopulatePhase.requests (entries : Nat) : PopulatePhase → Nat
  | .loop index => 3 * (entries - index)
  | .attempt index tries => 3 * (entries - index) + 1 - tries
  | .awaiting index tries _ | .retrying index tries => 3 * (entries - index) - tries
  | .delaying index _ | .saving index => 3 * (entries - index) - 3
  | .finished | .threw => 0

/-- Which phases follow which, and how many requests that takes. -/
inductive PopulatePhase.Next (entries : Nat) : PopulatePhase → PopulatePhase → Nat → Prop
  | ends {index} : Next entries (.loop index) .finished 0
  | looks {index} (h : index < entries) : Next entries (.loop index) (.attempt index 1) 0
  | cached {index phase} (h : index < entries)
      (hphase : phase = .saving index ∨ phase = .loop (index + 1)) :
      Next entries (.loop index) phase 0
  | asks {index tries query} : Next entries (.attempt index tries) (.awaiting index tries query) 1
  | answered {index tries query flair} :
      Next entries (.awaiting index tries query) (.delaying index flair) 0
  | timesOut {index tries query} (h : tries < 3) :
      Next entries (.awaiting index tries query) (.retrying index tries) 0
  | givesUp {index tries query} (h : 3 ≤ tries) :
      Next entries (.awaiting index tries query) (.loop (index + 1)) 0
  | retries {index tries} :
      Next entries (.retrying index tries) (.attempt index (tries + 1)) 0
  | writes {index flair phase} (hphase : phase = .saving index ∨ phase = .loop (index + 1)) :
      Next entries (.delaying index flair) phase 0
  | saves {index} : Next entries (.saving index) (.loop (index + 1)) 0
  | throws {phase : PopulatePhase} (h : phase ≠ .finished) (h' : phase ≠ .threw) :
      Next entries phase .threw 0

namespace PopulatePhase

variable {entries made : Nat} {phase phase' : PopulatePhase}

theorem Next.placed (h : Next entries phase phase' made) (hplaced : phase.Placed entries) :
    phase'.Placed entries := by
  cases h with
  | ends => trivial
  | looks hlt => exact ⟨hlt, le_rfl, by omega⟩
  | cached hlt hphase =>
    rcases hphase with rfl | rfl
    · exact hlt
    · exact hlt
  | asks => exact hplaced
  | answered => exact hplaced.1
  | timesOut hlt => exact ⟨hplaced.1, hplaced.2.1, hlt⟩
  | givesUp => exact hplaced.1
  | retries => exact ⟨hplaced.1, by omega, hplaced.2.2⟩
  | writes hphase =>
    rcases hphase with rfl | rfl
    · exact hplaced
    · exact hplaced
  | saves => exact hplaced
  | throws => trivial

/-- Each step is paid for. -/
theorem Next.steps (h : Next entries phase phase' made) (hplaced : phase.Placed entries) :
    1 + phase'.steps entries ≤ phase.steps entries := by
  cases h with
  | throws hfinished hthrew =>
    unfold Placed at hplaced
    unfold PopulatePhase.steps
    cases phase with
    | finished => exact absurd rfl hfinished
    | threw => exact absurd rfl hthrew
    | loop | attempt | awaiting | retrying | delaying | saving =>
      dsimp only at hplaced ⊢
      omega
  | cached hlt hphase | writes hphase =>
    unfold Placed at hplaced
    rcases hphase with rfl | rfl
    all_goals
      unfold PopulatePhase.steps
      dsimp only at hplaced ⊢
      omega
  | ends | looks | asks | answered | timesOut | givesUp | retries | saves =>
    unfold Placed at hplaced
    unfold PopulatePhase.steps
    dsimp only at hplaced ⊢
    omega

/-- Each request is paid for. -/
theorem Next.requests (h : Next entries phase phase' made) (hplaced : phase.Placed entries) :
    made + phase'.requests entries ≤ phase.requests entries := by
  cases h with
  | throws => exact Nat.zero_le _
  | cached hlt hphase | writes hphase =>
    unfold Placed at hplaced
    rcases hphase with rfl | rfl
    all_goals
      unfold PopulatePhase.requests
      dsimp only at hplaced ⊢
      omega
  | ends | looks | asks | answered | timesOut | givesUp | retries | saves =>
    unfold Placed at hplaced
    unfold PopulatePhase.requests
    dsimp only at hplaced ⊢
    omega

end PopulatePhase

/-! ## The loop takes these steps -/

namespace FlairGenerator

/-- A step of the loop that goes on to another phase. -/
def moves (s : FlairGenerator) : FlairEvent → Bool
  | .client _ => false
  | .program canceled ok => (s.advance canceled ok).program.phase ≠ s.program.phase

/-- A step of the loop that makes a request. -/
def asks (s : FlairGenerator) : FlairEvent → Bool
  | .client _ => false
  | .program canceled ok => (s.advance canceled ok).client.queries.length > s.client.queries.length

/-- The loop is where it can be, and asks for no account that has answered. -/
structure Placed (entries : Nat) (s : FlairGenerator) : Prop where
  length : s.program.entries.length = entries
  phase : s.program.phase.Placed entries
  unanswered : ∀ accountId, s.program.asked = some accountId → s.program.cache accountId = none

/-- The loop is over, or in a call that is not back. -/
def Rests (s : FlairGenerator) : Prop :=
  s.program.phase = .finished ∨ s.program.phase = .threw ∨
    ∃ index tries query, s.program.phase = .awaiting index tries query ∧
      ∀ call result, s.client.queries[query]? = some call → call.phase ≠ .returned result

variable {entries : Nat} {s : FlairGenerator}

theorem queries_request (client : Cs2GcClient) (accountId : UInt32) :
    (client.request accountId).queries.length = client.queries.length + 1 := by
  unfold Cs2GcClient.request
  split
  · exact List.length_append
  · exact List.length_append

theorem next_write (program : FlairPopulation) (index : Nat) (flair : UInt32) :
    (program.write index flair).phase = .saving index ∨
      (program.write index flair).phase = .loop (index + 1) := by
  unfold FlairPopulation.write
  dsimp only
  split
  · exact Or.inl rfl
  · exact Or.inr rfl

/-- The loop rests in its phase, with no request made, or takes a step. -/
theorem advance_next (h : s.Placed entries) (canceled ok : Bool) :
    (s.advance canceled ok).program.phase = s.program.phase ∧
        (s.advance canceled ok).client = s.client ∧ s.Rests ∨
      ∃ requests, PopulatePhase.Next entries s.program.phase
          (s.advance canceled ok).program.phase requests ∧
        (s.advance canceled ok).client.queries.length = s.client.queries.length + requests := by
  have hplaced := h.phase
  unfold PopulatePhase.Placed at hplaced
  unfold advance
  split
  · rename_i index hphase
    refine Or.inr ⟨0, ?_, rfl⟩
    show PopulatePhase.Next entries _ (s.program.iterate index canceled).phase 0
    rw [hphase]
    unfold FlairPopulation.iterate
    split
    · exact .ends
    · rename_i entry hentry
      have hlt : index < entries := h.length ▸ (List.getElem?_eq_some_iff.mp hentry).1
      split
      · exact .throws nofun nofun
      · split
        · exact .cached hlt (next_write _ _ _)
        · exact .looks hlt
  · rename_i index tries hphase
    rw [hphase] at hplaced ⊢
    split
    · rename_i hnone
      rw [List.getElem?_eq_none_iff, h.length] at hnone
      exact absurd hplaced.1 (Nat.not_lt.mpr hnone)
    · rename_i entry hentry
      rw [if_pos hplaced.2.2]
      exact Or.inr ⟨1, .asks, queries_request s.client entry.accountId⟩
  · rename_i index tries query hphase
    split
    · rename_i entry _ _ result hentry _
      refine Or.inr ⟨0, ?_, rfl⟩
      show PopulatePhase.Next entries _ (s.program.resume index tries entry result).phase 0
      rw [hphase]
      unfold FlairPopulation.resume
      split
      · exact .answered
      · dsimp only
        split
        · rename_i hlt
          exact .timesOut hlt
        · rename_i hge
          exact .givesUp (by omega)
      · exact .throws nofun nofun
    · rename_i hout
      rw [hphase] at hplaced
      refine Or.inl ⟨rfl, rfl, Or.inr (Or.inr ⟨index, tries, query, hphase, ?_⟩)⟩
      -- the entry is there, so it is the call that is not back
      rintro ⟨accountId, completion, phase⟩ result hcall rfl
      refine hout _ accountId completion result (List.getElem?_eq_getElem ?_) hcall
      exact h.length.symm ▸ hplaced.1
  · rename_i index tries hphase
    refine Or.inr ⟨0, ?_, rfl⟩
    rw [hphase]
    cases canceled with
    | true => exact .throws nofun nofun
    | false => exact .retries
  · rename_i index flair hphase
    rw [hphase]
    refine Or.inr ⟨0, ?_, ?_⟩
    · split
      · exact .throws nofun nofun
      · exact .writes (next_write _ _ _)
    · split <;> rfl
  · rename_i index hphase
    rw [hphase]
    refine Or.inr ⟨0, ?_, ?_⟩
    · split
      · exact .saves
      · exact .throws nofun nofun
    · split <;> rfl
  · rename_i hphase
    refine Or.inl ?_
    split
    · exact ⟨rfl, rfl, Or.inl hphase⟩
    · exact ⟨rfl, rfl, Or.inl hphase⟩
  · rename_i hphase
    exact Or.inl ⟨rfl, rfl, Or.inr (Or.inl hphase)⟩

theorem length_advance (s : FlairGenerator) (canceled ok : Bool) :
    (s.advance canceled ok).program.entries.length = s.program.entries.length := by
  unfold advance FlairPopulation.iterate FlairPopulation.resume FlairPopulation.write
  grind

/-- An account that is asked for has not answered. -/
theorem unanswered_advance (h : s.Placed entries) (canceled ok : Bool) {accountId : UInt32}
    (hasked : (s.advance canceled ok).program.asked = some accountId) :
    (s.advance canceled ok).program.cache accountId = none := by
  have hold := h.unanswered
  unfold FlairPopulation.asked at hold hasked
  unfold advance FlairPopulation.iterate FlairPopulation.resume FlairPopulation.write
    at hasked ⊢
  grind

/-- What has answered once stays in the cache as it is. -/
theorem cache_advance (h : s.Placed entries) (canceled ok : Bool) {accountId flair : UInt32}
    (hcached : s.program.cache accountId = some flair) :
    (s.advance canceled ok).program.cache accountId = some flair := by
  have hold := h.unanswered
  unfold FlairPopulation.asked at hold
  unfold advance FlairPopulation.iterate FlairPopulation.resume FlairPopulation.write
  grind

theorem Placed.step (h : s.Placed entries) (e : FlairEvent) : (s.step e).Placed entries := by
  cases e with
  | client event => exact ⟨h.length, h.phase, h.unanswered⟩
  | program canceled ok =>
    refine ⟨(length_advance s canceled ok).trans h.length, ?_,
      fun accountId hasked => unanswered_advance h canceled ok hasked⟩
    rcases advance_next h canceled ok with ⟨hsame, -⟩ | ⟨requests, hnext, -⟩
    · show (s.advance canceled ok).program.phase.Placed entries
      rw [hsame]
      exact h.phase
    · exact hnext.placed h.phase

theorem placed_start (accountIds : List UInt32) : (start accountIds).Placed accountIds.length where
  length := List.length_map ..
  phase := Nat.zero_le _
  unanswered := fun _ h => nomatch h

/-- What a step takes from the steps that are left. -/
theorem steps_step (h : s.Placed entries) (e : FlairEvent) :
    (if s.moves e then 1 else 0) + (s.step e).program.phase.steps entries ≤
      s.program.phase.steps entries := by
  cases e with
  | client event => exact Nat.le_of_eq (Nat.zero_add _)
  | program canceled ok =>
    show (if s.moves (.program canceled ok) then 1 else 0) +
      (s.advance canceled ok).program.phase.steps entries ≤ _
    rcases advance_next h canceled ok with ⟨hsame, -⟩ | ⟨requests, hnext, -⟩
    · rw [hsame, show s.moves (.program canceled ok) = false by simp [moves, hsame]]
      exact Nat.le_of_eq (Nat.zero_add _)
    · have hpaid := hnext.steps h.phase
      split <;> omega

/-- What a step takes from the requests that are left. -/
theorem requests_step (h : s.Placed entries) (e : FlairEvent) :
    (if s.asks e then 1 else 0) + (s.step e).program.phase.requests entries ≤
      s.program.phase.requests entries := by
  cases e with
  | client event => exact Nat.le_of_eq (Nat.zero_add _)
  | program canceled ok =>
    show (if s.asks (.program canceled ok) then 1 else 0) +
      (s.advance canceled ok).program.phase.requests entries ≤ _
    rcases advance_next h canceled ok with ⟨hsame, hclient, -⟩ | ⟨requests, hnext, hqueries⟩
    · rw [hsame, show s.asks (.program canceled ok) = false by simp [asks, hclient]]
      exact Nat.le_of_eq (Nat.zero_add _)
    · have hpaid := hnext.requests h.phase
      split
      · rename_i hasks
        have hmore : (s.advance canceled ok).client.queries.length > s.client.queries.length :=
          of_decide_eq_true hasks
        omega
      · omega

/-- Where the loop does not rest, its next step goes on. -/
theorem Placed.moves (h : s.Placed entries) (hrests : ¬ s.Rests) (canceled ok : Bool) :
    s.moves (.program canceled ok) = true := by
  rcases advance_next h canceled ok with ⟨-, -, hrest⟩ | ⟨requests, hnext, -⟩
  · exact absurd hrest hrests
  · have hpaid := hnext.steps h.phase
    refine decide_eq_true fun hsame => ?_
    rw [hsame] at hpaid
    omega

end FlairGenerator

/-- **The loop ends.** For any entries and whatever happens, the loop makes at most three requests
an entry and at most twelve steps an entry and one more; it is never stuck but in a call that is
not back; and an account that has answered keeps its answer and is not asked again. -/
theorem loop_ends (accountIds : List UInt32) (es : List FlairEvent) :
    let start := FlairGenerator.start accountIds
    let s := Runs.exec FlairGenerator.step start es
    Runs.count FlairGenerator.step FlairGenerator.asks start es ≤ 3 * accountIds.length ∧
      Runs.count FlairGenerator.step FlairGenerator.moves start es ≤ 12 * accountIds.length + 1 ∧
      (s.Rests ∨ ∀ canceled ok, s.moves (.program canceled ok) = true) ∧
      (∀ accountId, s.program.asked = some accountId → s.program.cache accountId = none) ∧
      ∀ e accountId flair, s.program.cache accountId = some flair →
        (s.step e).program.cache accountId = some flair := by
  intro start s
  have hstart := FlairGenerator.placed_start accountIds
  have hplaced : s.Placed accountIds.length :=
    Runs.exec_always hstart fun s e h => h.step e
  refine ⟨Runs.count_le_budget (fun s => s.program.phase.requests accountIds.length) hstart
      (fun s e h => h.step e) fun s e h => FlairGenerator.requests_step h e,
    Runs.count_le_budget (fun s => s.program.phase.steps accountIds.length) hstart
      (fun s e h => h.step e) fun s e h => FlairGenerator.steps_step h e,
    ?_, hplaced.unanswered, fun e accountId flair hcached => ?_⟩
  · exact (Classical.em s.Rests).imp_right fun hrests => hplaced.moves hrests
  · cases e with
    | client event => exact hcached
    | program canceled ok => exact FlairGenerator.cache_advance hplaced canceled ok hcached

end BotHider.Model
