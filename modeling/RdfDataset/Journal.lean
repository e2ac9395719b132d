import RdfDataset.Memory

/-!
# A world with a journal

Lexicon and backend in memory, with a journal of all calls and a plan that says which of them
misbehave: the lexicon may answer with one and the same id, the backend may refuse a certain call,
and the token may be cancelled right after a certain call.
-/

set_option autoImplicit false

namespace RdfDataset.Journal

/-- A call of the backend that fails, counted from one, and the failure. -/
structure Refusal where
  call : Nat
  cause : StorageError

/-- What is to go wrong. Calls are counted from one, registrations and index calls each on their
own. -/
structure Plan where
  fixedId : Option ObjectId := none
  cancelAfterRegistration : Option Nat := none
  cancelAfterIndexing : Option Nat := none
  refusal : Option Refusal := none

/-- What has happened so far. The calls are kept with the latest first. -/
structure State extends Memory where
  registrations : List (Entry × ObjectId)
  indexed : List Key
  cancelled : Bool

namespace State

def initial (cancelled : Bool) : State := ⟨.empty, [], [], cancelled⟩

end State

/-- Registers in the lexicon, then writes down the call with the id that is given out. -/
def register (plan : Plan) (entry : Entry) (state : State) : ObjectId × State :=
  let (id, lexicon) := state.lexicon.register entry
  let id := plan.fixedId.getD id
  let registrations := (entry, id) :: state.registrations
  let cancelled := state.cancelled || plan.cancelAfterRegistration == some registrations.length
  (id, { state with lexicon, registrations, cancelled })

/-- Writes down the call, then refuses it if that is planned, and otherwise lets the backend decide.
Only an accepted call can cancel the token. -/
def index (plan : Plan) (key : Key) (state : State) : Except StorageError Unit × State :=
  let indexed := key :: state.indexed
  match plan.refusal with
  | some refusal =>
    if refusal.call = indexed.length then (.error refusal.cause, { state with indexed })
    else accept indexed
  | none => accept indexed
where
  accept (indexed : List Key) : Except StorageError Unit × State :=
    match state.keys.index key with
    | (.error cause, keys) => (.error cause, { state with keys, indexed })
    | (.ok _, keys) =>
      let cancelled := state.cancelled || plan.cancelAfterIndexing == some indexed.length
      (.ok (), { state with keys, indexed, cancelled })

def world (plan : Plan) : World State where
  register := register plan
  index := index plan
  isCancelled := State.cancelled

end RdfDataset.Journal
