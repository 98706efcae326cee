import BotHider.Lib.Rows
import BotHider.Lib.Run
import BotHider.Model.FlairGenerator

/-!
# BotHider — flairs come from the account's own profile

The client keeps one request pending at a time, but a response may come late: its handler reads
the pending request under the lock and completes it after the requester has timed out and moved
on. That is harmless since the handler looks for the account that it read with the request, and
a request that is over is completed without anybody looking at it (`Cs2GcClient.Sound`). The
loop adds that it takes a result only for the entry whose account it asked for
(`FlairGenerator.Sound`).
-/

namespace BotHider.Model

/-- A response that came in had a profile of the account with this featured item. -/
def Delivered (R : PlayersProfile → Prop) (accountId flair : UInt32) : Prop :=
  ∃ response, R response ∧ ∃ profile ∈ response.accountProfiles,
    profile.accountId = accountId ∧ profile.featuredDisplayItem = flair

variable {R : PlayersProfile → Prop}

/-- What a handler completes a request with is of the account that it read. -/
theorem ProfileHandler.delivered {handler : ProfileHandler} (h : R handler.response)
    {flair : UInt32} (hresult : handler.result = some flair) :
    Delivered R handler.accountId flair := by
  obtain ⟨profile, hfound, hflair⟩ := Option.map_eq_some_iff.mp hresult
  exact ⟨handler.response, h, profile, List.mem_of_find?_eq_some hfound,
    beq_iff_eq.mp (List.find?_some hfound :), hflair⟩

/-! ## One request -/

namespace ProfileQuery

/-- The call is between its two lock regions. -/
def InFlight (query : ProfileQuery) : Prop := ∀ result, query.phase ≠ .returned result

/-- The call completes with this flair. -/
def Completes (query : ProfileQuery) (flair : UInt32) : Prop :=
  query.completion = some (.ok flair) ∨ query.phase = .leaving (.ok flair) ∨
    query.phase = .returned (.ok flair)

/-- The call completes only with what came for its account. -/
def Own (R : PlayersProfile → Prop) (query : ProfileQuery) : Prop :=
  ∀ flair, query.Completes flair → Delivered R query.accountId flair

/-- A change of a call that does not put it back in flight, and keeps its results its own. -/
structure Follows (R : PlayersProfile → Prop) (query query' : ProfileQuery) : Prop where
  accountId : query'.accountId = query.accountId
  inFlight : query'.InFlight → query.InFlight
  own : query.Own R → query'.Own R

theorem follows_self (query : ProfileQuery) : query.Follows R query := ⟨rfl, id, id⟩

theorem follows_trySet (query : ProfileQuery) {result : QueryResult}
    (h : ∀ flair, result = .ok flair → Delivered R query.accountId flair) :
    query.Follows R (query.trySet result) := by
  unfold trySet
  split
  · exact follows_self query
  · refine ⟨rfl, id, fun hown flair hcompletes => ?_⟩
    rcases hcompletes with hset | hphase
    · exact h flair (Option.some.inj hset)
    · exact hown flair (Or.inr hphase)

theorem inFlight_of_phase {query : ProfileQuery} {phase : QueryPhase} (h : query.phase = phase)
    (hphase : ∀ result, phase ≠ .returned result) : query.InFlight :=
  fun result hreturned => hphase result (h.symm.trans hreturned)

/-- A call that goes on with a result is followed by it when the result is an error or the one
that its completion source was set to. -/
theorem follows_phase {query : ProfileQuery} (hflight : query.InFlight) {phase : QueryPhase}
    (h : ∀ flair, phase = .leaving (.ok flair) ∨ phase = .returned (.ok flair) →
      query.Completes flair) :
    query.Follows R { query with phase } := by
  refine ⟨rfl, fun _ => hflight, fun hown flair hcompletes => ?_⟩
  rcases hcompletes with hset | hphase
  · exact hown flair (Or.inl hset)
  · exact hown flair (h flair hphase)

theorem follows_send (query : ProfileQuery) (ok : Bool) : query.Follows R (query.send ok) := by
  unfold send
  split
  · rename_i hphase
    refine follows_phase (inFlight_of_phase hphase fun _ h => nomatch h) fun flair h => ?_
    cases ok with
    | true => rcases h with h | h <;> cases h
    | false => rcases h with h | h <;> cases h
  · exact follows_self query

theorem follows_wait (query : ProfileQuery) (how : WaitEnd) :
    query.Follows R (query.wait how) := by
  have hflight : query.phase = .waiting → query.InFlight := fun hphase =>
    inFlight_of_phase hphase fun _ h => nomatch h
  unfold wait
  split
  · rename_i hphase
    split
    · rename_i result hset
      refine follows_phase (hflight hphase) fun flair h => Or.inl ?_
      rcases h with h | h
      · obtain rfl := QueryPhase.leaving.inj h
        exact hset
      · cases h
    · exact follows_self query
  · rename_i hphase
    exact follows_phase (hflight hphase) fun flair h => by rcases h with h | h <;> cases h
  · rename_i hphase
    exact follows_phase (hflight hphase) fun flair h => by rcases h with h | h <;> cases h
  · exact follows_self query

theorem follows_leave (query : ProfileQuery) : query.Follows R query.leave := by
  unfold leave
  split
  · rename_i result hphase
    refine follows_phase (inFlight_of_phase hphase fun _ h => nomatch h) fun flair h => ?_
    rcases h with h | h
    · cases h
    · obtain rfl := QueryPhase.returned.inj h
      exact Or.inr (Or.inl hphase)
  · exact follows_self query

theorem accountId_trySet (query : ProfileQuery) (result : QueryResult) :
    (query.trySet result).accountId = query.accountId := by
  unfold trySet
  split
  · rfl
  · rfl

theorem accountId_send (query : ProfileQuery) (ok : Bool) :
    (query.send ok).accountId = query.accountId :=
  (query.follows_send (R := fun _ => True) ok).accountId

theorem accountId_wait (query : ProfileQuery) (how : WaitEnd) :
    (query.wait how).accountId = query.accountId :=
  (query.follows_wait (R := fun _ => True) how).accountId

theorem accountId_leave (query : ProfileQuery) : query.leave.accountId = query.accountId :=
  (query.follows_leave (R := fun _ => True)).accountId

/-- A call that was just made completes with no flair. -/
theorem own_new {phase : QueryPhase}
    (h : ∀ flair, phase ≠ .leaving (.ok flair) ∧ phase ≠ .returned (.ok flair))
    (accountId : UInt32) : Own R { accountId, phase } := by
  intro flair hcompletes
  rcases hcompletes with hset | hleaving | hreturned
  · cases hset
  · exact absurd hleaving (h flair).1
  · exact absurd hreturned (h flair).2

end ProfileQuery

/-! ## The client -/

namespace Cs2GcClient

/-- The account a call is for. -/
def accountOf (client : Cs2GcClient) (query : Nat) : Option UInt32 :=
  Rows.field ProfileQuery.accountId client.queries query

/-- Calls are pending while they are in flight and complete with what is their own; handlers
hold the account of the call that they complete. -/
structure Sound (R : PlayersProfile → Prop) (client : Cs2GcClient) : Prop where
  pending : ∀ i, client.pendingProfile = some i →
    client.accountOf i = some client.pendingAccountId
  inFlight : Rows.Every (fun i query => query.InFlight → client.pendingProfile = some i)
    client.queries
  own : Rows.Every (fun _ query => query.Own R) client.queries
  handlers : ∀ handler ∈ client.handlers,
    R handler.response ∧ client.accountOf handler.completion = some handler.accountId

variable {client : Cs2GcClient}

theorem sound_start : Sound R {} where
  pending := fun _ h => nomatch h
  inFlight := Rows.every_nil
  own := Rows.every_nil
  handlers := fun _ h => nomatch h

/-- A change of one call that follows it keeps the client sound. -/
theorem Sound.modify (h : client.Sound R) {n : Nat} {f : ProfileQuery → ProfileQuery}
    (haccount : ∀ query, (f query).accountId = query.accountId)
    (hf : ∀ query, client.queries[n]? = some query → query.Follows R (f query)) :
    Sound R { client with queries := client.queries.modify n f } where
  pending := fun i hi => (Rows.field_modify haccount).trans (h.pending i hi)
  inFlight := h.inFlight.modify fun query hquery hold hflight =>
    hold ((hf query hquery).inFlight hflight)
  own := h.own.modify fun query hquery => (hf query hquery).own
  handlers := fun handler hhandler =>
    ⟨(h.handlers handler hhandler).1,
      (Rows.field_modify haccount).trans (h.handlers handler hhandler).2⟩

theorem Sound.request (h : client.Sound R) (accountId : UInt32) :
    (client.request accountId).Sound R := by
  unfold Cs2GcClient.request
  split
  · -- another one is pending: the call throws
    refine ⟨fun i hi => Rows.field_snoc (h.pending i hi), h.inFlight.snoc fun hflight => ?_,
      h.own.snoc (ProfileQuery.own_new ?_ accountId), fun handler hhandler => ?_⟩
    · exact absurd rfl (hflight _)
    · exact fun flair => ⟨nofun, nofun⟩
    · exact ⟨(h.handlers handler hhandler).1, Rows.field_snoc (h.handlers handler hhandler).2⟩
  · -- none is pending, so no earlier call is in flight
    rename_i hfree
    refine ⟨fun i hi => ?_, ?_, h.own.snoc (ProfileQuery.own_new ?_ accountId),
      fun handler hhandler => ?_⟩
    · obtain rfl := Option.some.inj hi
      exact Rows.field_snoc_last
    · refine Rows.Every.snoc (h.inFlight.mono fun i query hold hflight => ?_) fun _ => rfl
      rw [hfree] at hold
      cases hold hflight
    · exact fun flair => ⟨nofun, nofun⟩
    · exact ⟨(h.handlers handler hhandler).1, Rows.field_snoc (h.handlers handler hhandler).2⟩

theorem Sound.leave (h : client.Sound R) (query : Nat) : (client.leave query).Sound R := by
  have hleft : Sound R { client with queries := client.queries.modify query .leave } :=
    h.modify ProfileQuery.accountId_leave fun q _ => q.follows_leave
  unfold Cs2GcClient.leave
  split
  · rename_i accountId completion result hquery
    dsimp only
    split
    · rename_i hpending
      refine ⟨(fun i hi => nomatch hi), ?_, hleft.own, hleft.handlers⟩
      -- the only call in flight is the one that leaves
      have hnone : Rows.Every (fun i q => ¬ q.InFlight) (client.queries.modify query .leave) := by
        refine h.inFlight.modify_of (fun i q hi hold hflight => ?_) fun q hq _ hflight => ?_
        · exact hi (Option.some.inj ((hold hflight).symm.trans hpending))
        · obtain rfl := Option.some.inj (hquery.symm.trans hq)
          exact hflight result rfl
      exact hnone.mono fun i q hover hflight => absurd hflight hover
    · exact hleft
  · exact h

theorem Sound.respond (h : client.Sound R) {response : PlayersProfile} (hresponse : R response) :
    (client.respond response).Sound R := by
  unfold Cs2GcClient.respond
  split
  · exact h
  · rename_i completion hpending
    refine ⟨h.pending, h.inFlight, h.own, fun handler hhandler => ?_⟩
    rcases List.mem_append.mp hhandler with hold | hnew
    · exact h.handlers handler hold
    · obtain rfl := List.mem_singleton.mp hnew
      exact ⟨hresponse, h.pending completion hpending⟩

theorem Sound.complete (h : client.Sound R) (handler : Nat) :
    (client.complete handler).Sound R := by
  unfold Cs2GcClient.complete
  split
  · exact h
  · rename_i handler' hhandler
    obtain ⟨hresponse, haccount⟩ := h.handlers handler' (List.mem_of_getElem? hhandler)
    have hdone : Sound R { client with handlers := client.handlers.eraseIdx handler } :=
      ⟨h.pending, h.inFlight, h.own, fun other hother =>
        h.handlers other (List.mem_of_mem_eraseIdx hother)⟩
    dsimp only
    split
    · exact hdone
    · rename_i flair hflair
      refine hdone.modify (fun q => q.accountId_trySet _) fun q hq => q.follows_trySet ?_
      rintro _ ⟨⟩
      -- the call may be over by now, but it is still for the account that the handler read
      have hsame : q.accountId = handler'.accountId :=
        Option.some.inj ((Rows.field_of_row hq).symm.trans haccount)
      rw [hsame]
      exact handler'.delivered hresponse hflair

theorem Sound.failSession (h : client.Sound R) (message : String) :
    (client.failSession message).Sound R := by
  unfold Cs2GcClient.failSession
  split
  · exact h
  · exact h.modify (fun q => q.accountId_trySet _) fun q _ =>
      q.follows_trySet fun _ h => nomatch h

/-- What is promised of an event: a response that comes in is one of those considered. -/
def Brings (R : PlayersProfile → Prop) : ClientEvent → Prop
  | .respond response => R response
  | _ => True

/-- Every event keeps the client sound. -/
theorem Sound.step (h : client.Sound R) {e : ClientEvent} (he : Brings R e) :
    (client.step e).Sound R := by
  cases e with
  | request accountId => exact h.request accountId
  | send query ok =>
    exact h.modify (fun q => q.accountId_send ok) fun q _ => q.follows_send ok
  | wait query how =>
    exact h.modify (fun q => q.accountId_wait how) fun q _ => q.follows_wait how
  | leave query => exact h.leave query
  | respond response => exact h.respond he
  | complete handler => exact h.complete handler
  | failSession message => exact h.failSession message

/-- The next call is for the account it was made with. -/
theorem accountOf_request (client : Cs2GcClient) (accountId : UInt32) :
    (client.request accountId).accountOf client.queries.length = some accountId := by
  unfold Cs2GcClient.request
  split
  · exact Rows.field_snoc_last
  · exact Rows.field_snoc_last

/-- A call stays the call that it is. -/
theorem accountOf_step {i : Nat} {accountId : UInt32} (h : client.accountOf i = some accountId)
    (e : ClientEvent) : (client.step e).accountOf i = some accountId := by
  have hmodify : ∀ {n : Nat} {f : ProfileQuery → ProfileQuery},
      (∀ query, (f query).accountId = query.accountId) →
      Rows.field ProfileQuery.accountId (client.queries.modify n f) i = some accountId :=
    fun hf => (Rows.field_modify hf).trans h
  cases e with
  | request other =>
    show accountOf (client.request other) i = some accountId
    unfold Cs2GcClient.request
    split
    · exact Rows.field_snoc h
    · exact Rows.field_snoc h
  | send query ok => exact hmodify fun q => q.accountId_send ok
  | wait query how => exact hmodify fun q => q.accountId_wait how
  | leave query =>
    have hleft := hmodify (n := query) ProfileQuery.accountId_leave
    show accountOf (client.leave query) i = some accountId
    unfold Cs2GcClient.leave
    split
    · dsimp only
      split
      · exact hleft
      · exact hleft
    · exact h
  | respond response =>
    show accountOf (client.respond response) i = some accountId
    unfold Cs2GcClient.respond
    split
    · exact h
    · exact h
  | complete handler =>
    show accountOf (client.complete handler) i = some accountId
    unfold Cs2GcClient.complete
    split
    · exact h
    · dsimp only
      split
      · exact h
      · exact hmodify fun q => q.accountId_trySet _
  | failSession message =>
    show accountOf (client.failSession message) i = some accountId
    unfold Cs2GcClient.failSession
    split
    · exact h
    · exact hmodify fun q => q.accountId_trySet _

end Cs2GcClient

/-! ## The loop -/

namespace FlairPopulation

/-- Every entry whose flair was set has one of its own account. -/
def OwnFlairs (R : PlayersProfile → Prop) (entries : List FlairGenerator.BotEntry) : Prop :=
  Rows.Every (fun _ entry => ∀ flair, entry.scoreboardFlair = some flair →
    Delivered R entry.accountId flair) entries

/-- The flair that a phase holds, or the call it waits for, is of the entry it is about. -/
def Holds (R : PlayersProfile → Prop) (entries : List FlairGenerator.BotEntry)
    (client : Cs2GcClient) : PopulatePhase → Prop
  | .awaiting index _ query => ∀ entry, entries[index]? = some entry →
    client.accountOf query = some entry.accountId
  | .delaying index flair => ∀ entry, entries[index]? = some entry →
    Delivered R entry.accountId flair
  | _ => True

end FlairPopulation

namespace FlairGenerator

structure Sound (R : PlayersProfile → Prop) (accountIds : List UInt32) (s : FlairGenerator) :
    Prop where
  client : s.client.Sound R
  accounts : s.program.entries.map (·.accountId) = accountIds
  entries : FlairPopulation.OwnFlairs R s.program.entries
  saved : FlairPopulation.OwnFlairs R s.program.saved
  cache : ∀ accountId flair, s.program.cache accountId = some flair → Delivered R accountId flair
  phase : FlairPopulation.Holds R s.program.entries s.client s.program.phase

variable {accountIds : List UInt32} {s : FlairGenerator}

theorem sound_start (accountIds : List UInt32) : (start accountIds).Sound R accountIds where
  client := Cs2GcClient.sound_start
  accounts := by
    show (accountIds.map _).map _ = accountIds
    rw [List.map_map]
    exact List.map_id accountIds
  entries := by
    intro i entry hentry flair hflair
    obtain ⟨accountId, -, rfl⟩ := List.mem_map.mp (List.mem_of_getElem? hentry)
    cases hflair
  saved := Rows.every_nil
  cache := fun _ _ h => nomatch h
  phase := trivial

/-- A phase that holds neither a flair nor a call can be entered at any time. -/
theorem Sound.enter (h : s.Sound R accountIds) {phase : PopulatePhase}
    (hphase : FlairPopulation.Holds R s.program.entries s.client phase) :
    Sound R accountIds { s with program := { s.program with phase } } :=
  ⟨h.client, h.accounts, h.entries, h.saved, h.cache, hphase⟩

/-- Writing a flair of the entry's own account. -/
theorem Sound.write (h : s.Sound R accountIds) {index : Nat} {flair : UInt32}
    (hown : ∀ entry, s.program.entries[index]? = some entry →
      Delivered R entry.accountId flair) :
    Sound R accountIds { s with program := s.program.write index flair } where
  client := h.client
  accounts := by
    refine Eq.trans (Rows.map_modify ?_) h.accounts
    exact fun _ => rfl
  entries := h.entries.modify fun entry hentry _ flair' hflair => by
    obtain rfl := Option.some.inj hflair
    exact hown entry hentry
  saved := h.saved
  cache := h.cache
  phase := by
    show FlairPopulation.Holds R _ _ (if _ then _ else _)
    split
    · trivial
    · trivial

theorem Sound.iterate (h : s.Sound R accountIds) (index : Nat) (canceled : Bool) :
    Sound R accountIds { s with program := s.program.iterate index canceled } := by
  unfold FlairPopulation.iterate
  split
  · exact h.enter trivial
  · rename_i entry hentry
    split
    · exact h.enter trivial
    · split
      · rename_i flair hcached
        refine h.write fun entry' hentry' => ?_
        obtain rfl := Option.some.inj (hentry.symm.trans hentry')
        exact h.cache entry.accountId flair hcached
      · exact h.enter trivial

/-- A result is cached and kept for the account that was asked for. -/
theorem Sound.resume (h : s.Sound R accountIds) {index : Nat} (attempt : Nat)
    {entry : FlairGenerator.BotEntry} (hentry : s.program.entries[index]? = some entry)
    {result : QueryResult}
    (hresult : ∀ flair, result = .ok flair → Delivered R entry.accountId flair) :
    Sound R accountIds { s with program := s.program.resume index attempt entry result } := by
  unfold FlairPopulation.resume
  split
  · rename_i flair
    refine ⟨h.client, h.accounts, h.entries, h.saved, fun accountId flair' hcached => ?_, ?_⟩
    · dsimp only at hcached
      split at hcached
      · rename_i hsame
        obtain rfl := Option.some.inj hcached
        rw [hsame]
        exact hresult flair rfl
      · exact h.cache accountId flair' hcached
    · intro entry' hentry'
      obtain rfl := Option.some.inj (hentry.symm.trans hentry')
      exact hresult flair rfl
  · refine h.enter ?_
    split
    · trivial
    · trivial
  · exact h.enter trivial

theorem Sound.advance (h : s.Sound R accountIds) (canceled ok : Bool) :
    (s.advance canceled ok).Sound R accountIds := by
  have hphase := h.phase
  unfold FlairGenerator.advance
  split
  · exact h.iterate _ canceled
  · split
    · exact h
    · rename_i entry hentry
      split
      · refine ⟨h.client.request entry.accountId, h.accounts, h.entries, h.saved, h.cache, ?_⟩
        intro entry' hentry'
        obtain rfl := Option.some.inj (hentry.symm.trans hentry')
        exact Cs2GcClient.accountOf_request s.client entry.accountId
      · exact h.enter trivial
  · rename_i index attempt query hat
    split
    · rename_i entry accountId completion result hentry hquery
      refine h.resume attempt hentry fun flair hflair => ?_
      rw [hat] at hphase
      -- the call's own results are the entry's
      have hsame : accountId = entry.accountId :=
        Option.some.inj ((Rows.field_of_row hquery).symm.trans (hphase entry hentry))
      rw [← hsame]
      exact h.client.own query _ hquery flair (Or.inr (Or.inr (congrArg _ hflair)))
    · exact h
  · refine h.enter ?_
    split
    · trivial
    · trivial
  · rename_i index flair hat
    split
    · exact h.enter trivial
    · rw [hat] at hphase
      exact h.write hphase
  · split
    · exact ⟨h.client, h.accounts, h.entries, h.entries, h.cache, trivial⟩
    · exact h.enter trivial
  · split
    · exact ⟨h.client, h.accounts, h.entries, h.entries, h.cache, h.phase⟩
    · exact h
  · exact h

/-- Every event keeps the generator sound. -/
theorem Sound.step (h : s.Sound R accountIds) {e : FlairEvent}
    (he : ∀ event, e = .client event → Cs2GcClient.Brings R event) :
    (s.step e).Sound R accountIds := by
  cases e with
  | client event =>
    refine ⟨h.client.step (he event rfl), h.accounts, h.entries, h.saved, h.cache, ?_⟩
    have hphase := h.phase
    show FlairPopulation.Holds R s.program.entries (s.client.step event) s.program.phase
    cases hat : s.program.phase with
    | awaiting index attempt query =>
      -- whatever the client does, the call stays one for the entry's account
      rw [hat] at hphase
      exact fun entry hentry => Cs2GcClient.accountOf_step (hphase entry hentry) event
    | delaying index flair =>
      rw [hat] at hphase
      exact hphase
    | loop | attempt | retrying | saving | finished | threw => trivial
  | program canceled ok => exact h.advance canceled ok

end FlairGenerator

/-- **Flairs.** In every run, calls that are in flight are one and the pending one, a call
completes with the featured item of a profile of its account or an exception, and a flair that
was written to an entry or saved with it is of the entry's own account. -/
theorem flairs_of_own_account (accountIds : List UInt32) (es : List FlairEvent) :
    let s := Runs.exec FlairGenerator.step (FlairGenerator.start accountIds) es
    let Came := Delivered fun response => .client (.respond response) ∈ es
    (∀ (i j : Nat) query query', s.client.queries[i]? = some query →
        s.client.queries[j]? = some query' → query.InFlight → query'.InFlight → i = j) ∧
      (∀ (i : Nat) query flair, s.client.queries[i]? = some query → query.Completes flair →
        Came query.accountId flair) ∧
      s.program.entries.map (·.accountId) = accountIds ∧
      ∀ entry ∈ s.program.entries ++ s.program.saved, ∀ flair,
        entry.scoreboardFlair = some flair → Came entry.accountId flair := by
  intro s Came
  have hbrings : Runs.Admits FlairGenerator.step (fun _ e => ∀ event, e = .client event →
      Cs2GcClient.Brings (fun response => .client (.respond response) ∈ es) event)
      (FlairGenerator.start accountIds) es := by
    refine Runs.admits_of_forall fun _ e he event hevent => ?_
    subst hevent
    cases event with
    | respond response => exact he
    | request | send | wait | leave | complete | failSession => trivial
  have hsound : s.Sound (fun response => .client (.respond response) ∈ es) accountIds :=
    Runs.exec_invariant (FlairGenerator.sound_start accountIds) (fun _ _ h he => h.step he) hbrings
  refine ⟨fun i j query query' hi hj hflight hflight' => ?_, fun i query flair hi =>
    hsound.client.own i query hi flair, hsound.accounts, fun entry hentry flair hflair => ?_⟩
  · exact Option.some.inj
      ((hsound.client.inFlight i query hi hflight).symm.trans
        (hsound.client.inFlight j query' hj hflight'))
  · rcases List.mem_append.mp hentry with hentry | hentry
    · obtain ⟨i, hi⟩ := List.getElem?_of_mem hentry
      exact hsound.entries i entry hi flair hflair
    · obtain ⟨i, hi⟩ := List.getElem?_of_mem hentry
      exact hsound.saved i entry hi flair hflair

end BotHider.Model
