import Mathlib.Data.List.Basic

/-!
# BotHider — the flair generator

`tools/BotHiderFlairGenerator`: the profile requests of `Cs2GcClient.cs` and the loop of
`Program.cs` over the entries. A call of `GetFeaturedDisplayItemAsync` takes its two lock
regions, `Send` and the wait as steps of their own, a handler of a response reads under the lock
and completes the request in another step. A step that cannot be taken changes nothing.
-/

namespace BotHider.Model

/-! ## Messages -/

structure PlayerMedals where
  featuredDisplayItemDefIndex : UInt32

structure PlayerProfile where
  accountId : UInt32
  medals : Option PlayerMedals

structure PlayersProfile where
  accountProfiles : List PlayerProfile

/-- `profile.Medals?.FeaturedDisplayItemDefIndex ?? 0`. -/
def PlayerProfile.featuredDisplayItem (profile : PlayerProfile) : UInt32 :=
  match profile.medals with
  | some medals => medals.featuredDisplayItemDefIndex
  | none => 0

/-! ## Profile requests -/

inductive QueryException
  | timeout
  | operationCanceled
  | invalidOperation (message : String)
  /-- What `Send` threw. -/
  | send

abbrev QueryResult := Except QueryException UInt32

/-- Where a call of `GetFeaturedDisplayItemAsync` is: before `Send`, in `WaitAsync`, before the
lock region of its `finally`, or back. -/
inductive QueryPhase
  | sending
  | waiting
  | leaving (result : QueryResult)
  | returned (result : QueryResult)

/-- A call of `GetFeaturedDisplayItemAsync`, and what its completion source was set to. -/
structure ProfileQuery where
  accountId : UInt32
  completion : Option QueryResult := none
  phase : QueryPhase := .sending

/-- How a wait ends. -/
inductive WaitEnd
  | completed
  | timeout
  | canceled

namespace ProfileQuery

/-- `TrySetResult` and `TrySetException`. -/
def trySet (query : ProfileQuery) (result : QueryResult) : ProfileQuery :=
  if query.completion.isSome then query else { query with completion := some result }

/-- `Send`, which is outside the `try`. -/
def send (query : ProfileQuery) (ok : Bool) : ProfileQuery :=
  match query.phase with
  | .sending => { query with phase := if ok then .waiting else .returned (.error .send) }
  | _ => query

/-- `completion.Task.WaitAsync`. -/
def wait (query : ProfileQuery) (how : WaitEnd) : ProfileQuery :=
  match query.phase, how with
  | .waiting, .completed =>
    match query.completion with
    | some result => { query with phase := .leaving result }
    | none => query
  | .waiting, .timeout => { query with phase := .leaving (.error .timeout) }
  | .waiting, .canceled => { query with phase := .leaving (.error .operationCanceled) }
  | _, _ => query

/-- The end of the `finally`. -/
def leave (query : ProfileQuery) : ProfileQuery :=
  match query.phase with
  | .leaving result => { query with phase := .returned result }
  | _ => query

end ProfileQuery

/-- A `CompleteProfileRequest` between its lock region and its end. -/
structure ProfileHandler where
  completion : Nat
  accountId : UInt32
  response : PlayersProfile

/-- What a `CompleteProfileRequest` sets its completion source to, if anything. -/
def ProfileHandler.result (handler : ProfileHandler) : Option UInt32 :=
  (handler.response.accountProfiles.find? fun candidate =>
    candidate.accountId == handler.accountId).map PlayerProfile.featuredDisplayItem

/-- The profile requests of `Cs2GcClient`. A completion source is known by the number of the
call that made it. -/
structure Cs2GcClient where
  pendingProfile : Option Nat := none
  pendingAccountId : UInt32 := 0
  queries : List ProfileQuery := []
  handlers : List ProfileHandler := []

/-- What happens to the client. -/
inductive ClientEvent
  /-- The first lock region of `GetFeaturedDisplayItemAsync`. -/
  | request (accountId : UInt32)
  | send (query : Nat) (ok : Bool)
  | wait (query : Nat) (how : WaitEnd)
  /-- The lock region of the `finally`. -/
  | leave (query : Nat)
  /-- The lock region of `CompleteProfileRequest`. -/
  | respond (response : PlayersProfile)
  /-- The rest of `CompleteProfileRequest`. -/
  | complete (handler : Nat)
  | failSession (message : String)

namespace Cs2GcClient

def request (client : Cs2GcClient) (accountId : UInt32) : Cs2GcClient :=
  match client.pendingProfile with
  | some _ =>
    { client with queries := client.queries ++
        [{ accountId, phase := .returned (.error
            (.invalidOperation "Only one profile request may be active.")) }] }
  | none =>
    { client with
      pendingProfile := some client.queries.length
      pendingAccountId := accountId
      queries := client.queries ++ [{ accountId }] }

def leave (client : Cs2GcClient) (query : Nat) : Cs2GcClient :=
  match client.queries[query]? with
  | some { phase := .leaving _, .. } =>
    let left := { client with queries := client.queries.modify query .leave }
    if client.pendingProfile = some query then
      { left with pendingProfile := none, pendingAccountId := 0 }
    else left
  | _ => client

def respond (client : Cs2GcClient) (response : PlayersProfile) : Cs2GcClient :=
  match client.pendingProfile with
  | none => client
  | some completion =>
    { client with handlers := client.handlers ++
        [{ completion, accountId := client.pendingAccountId, response }] }

def complete (client : Cs2GcClient) (handler : Nat) : Cs2GcClient :=
  match client.handlers[handler]? with
  | none => client
  | some h =>
    let done := { client with handlers := client.handlers.eraseIdx handler }
    match h.result with
    | none => done
    | some flair =>
      { done with queries := client.queries.modify h.completion (·.trySet (.ok flair)) }

def failSession (client : Cs2GcClient) (message : String) : Cs2GcClient :=
  match client.pendingProfile with
  | none => client
  | some completion =>
    let failed : QueryResult := .error (.invalidOperation message)
    { client with queries := client.queries.modify completion (·.trySet failed) }

def step (client : Cs2GcClient) : ClientEvent → Cs2GcClient
  | .request accountId => client.request accountId
  | .send query ok => { client with queries := client.queries.modify query (·.send ok) }
  | .wait query how => { client with queries := client.queries.modify query (·.wait how) }
  | .leave query => client.leave query
  | .respond response => client.respond response
  | .complete handler => client.complete handler
  | .failSession message => client.failSession message

end Cs2GcClient

/-! ## The loop over the entries -/

/-- `BotEntry`: its account, and what `scoreboard_flair` of its object was set to. -/
structure FlairGenerator.BotEntry where
  accountId : UInt32
  scoreboardFlair : Option UInt32 := none

/-- Where `PopulateFlairsAsync` and `QueryWithRetriesAsync` are. -/
inductive PopulatePhase
  | loop (index : Nat)
  | attempt (index attempt : Nat)
  | awaiting (index attempt query : Nat)
  | retrying (index attempt : Nat)
  | delaying (index : Nat) (flair : UInt32)
  | saving (index : Nat)
  | finished
  | threw

/-- `PopulateFlairsAsync`, and the entries that were saved last. -/
structure FlairPopulation where
  entries : List FlairGenerator.BotEntry
  saved : List FlairGenerator.BotEntry := []
  cache : UInt32 → Option UInt32 := fun _ => none
  updated : Nat := 0
  phase : PopulatePhase := .loop 0

namespace FlairPopulation

/-- The part of the loop's body behind the query. -/
def write (program : FlairPopulation) (index : Nat) (flair : UInt32) : FlairPopulation :=
  let updated := program.updated + 1
  { program with
    entries := program.entries.modify index ({ · with scoreboardFlair := some flair })
    updated
    phase := if updated % 25 = 0 then .saving index else .loop (index + 1) }

/-- The loop's head and its look into the cache. -/
def iterate (program : FlairPopulation) (index : Nat) (canceled : Bool) : FlairPopulation :=
  match program.entries[index]? with
  | none => { program with phase := .finished }
  | some entry =>
    if canceled then { program with phase := .threw }
    else
      match program.cache entry.accountId with
      | some flair => program.write index flair
      | none => { program with phase := .attempt index 1 }

/-- What the loop does with the result of a query. -/
def resume (program : FlairPopulation) (index attempt : Nat) (entry : FlairGenerator.BotEntry) :
    QueryResult → FlairPopulation
  | .ok flair =>
    { program with
      cache := fun accountId =>
        if accountId = entry.accountId then some flair else program.cache accountId
      phase := .delaying index flair }
  | .error .timeout =>
    { program with
      phase := if attempt < 3 then .retrying index attempt else .loop (index + 1) }
  | .error _ => { program with phase := .threw }

end FlairPopulation

/-- The client and the loop. -/
structure FlairGenerator where
  client : Cs2GcClient
  program : FlairPopulation

/-- A step of the client, which others may use too, or the next step of the loop, where
`canceled` and `ok` are what its next check, delay or save comes to. -/
inductive FlairEvent
  | client (event : ClientEvent)
  | program (canceled ok : Bool)

namespace FlairGenerator

/-- The next step of the loop. -/
def advance (s : FlairGenerator) (canceled ok : Bool) : FlairGenerator :=
  match s.program.phase with
  | .loop index => { s with program := s.program.iterate index canceled }
  | .attempt index attempt =>
    match s.program.entries[index]? with
    | none => s
    | some entry =>
      if attempt ≤ 3 then
        { client := s.client.step (.request entry.accountId)
          program :=
            { s.program with phase := .awaiting index attempt s.client.queries.length } }
      else { s with program := { s.program with phase := .loop (index + 1) } }
  | .awaiting index attempt query =>
    match s.program.entries[index]?, s.client.queries[query]? with
    | some entry, some { phase := .returned result, .. } =>
      { s with program := s.program.resume index attempt entry result }
    | _, _ => s
  | .retrying index attempt =>
    let phase := if canceled then .threw else .attempt index (attempt + 1)
    { s with program := { s.program with phase } }
  | .delaying index flair =>
    if canceled then { s with program := { s.program with phase := .threw } }
    else { s with program := s.program.write index flair }
  | .saving index =>
    if ok then
      { s with program :=
          { s.program with saved := s.program.entries, phase := .loop (index + 1) } }
    else { s with program := { s.program with phase := .threw } }
  | .finished =>
    -- `Main` saves once more
    if ok then { s with program := { s.program with saved := s.program.entries } } else s
  | .threw => s

def step (s : FlairGenerator) : FlairEvent → FlairGenerator
  | .client event => { s with client := s.client.step event }
  | .program canceled ok => s.advance canceled ok

/-- The client is ready and no entry was looked at. -/
def start (accountIds : List UInt32) : FlairGenerator where
  client := {}
  program := { entries := accountIds.map fun accountId => { accountId } }

end FlairGenerator

end BotHider.Model
