import RdfDataset.Update

/-!
# Recorded calls

A record is a state together with the calls that led to it, each with the answer it got. Recording
a world makes it write down its calls, under a token that may depend on everything that has
happened so far.

`World.Makes` says that a world gives exactly the answers of a list of calls on its way from one
state to another, `Record.Continues` that one record goes on where another one stopped.
-/

set_option autoImplicit false

namespace RdfDataset

/-- A call of the executor with the answer it got. -/
inductive Call where
  | register (entry : Entry) (id : ObjectId)
  | index (key : Key) (answer : Except StorageError Unit)

namespace Call

def registered? : Call → Option Entry
  | register entry _ => some entry
  | index _ _ => none

/-- The key that a call hands to the backend, with the answer to it. -/
def indexed? : Call → Option (Key × Except StorageError Unit)
  | register _ _ => none
  | index key answer => some (key, answer)

end Call

/-- A state with the calls made so far, in their order. -/
structure Record (σ : Type) where
  state : σ
  calls : List Call

namespace Record

variable {σ : Type}

def start (state : σ) : Record σ := ⟨state, []⟩

def never (_ : Record σ) : Bool := false

/-- A token that is cancelled right after call number `limit`, before the first one if that is
zero. -/
def after (limit : Nat) (record : Record σ) : Bool := decide (limit ≤ record.calls.length)

end Record

namespace World

variable {σ : Type}

/-- The same lexicon and backend with every call written down, under a token of its own. -/
def recorded (world : World σ) (token : Record σ → Bool) : World (Record σ) where
  register entry record :=
    let (id, state) := world.register entry record.state
    (id, ⟨state, record.calls ++ [.register entry id]⟩)
  index key record :=
    let (answer, state) := world.index key record.state
    (answer, ⟨state, record.calls ++ [.index key answer]⟩)
  isCancelled := token

/-- One call takes the world from a state to the next one, and its answer is the world's. -/
def Answers (world : World σ) (before : σ) (call : Call) (after : σ) : Prop :=
  match call with
  | .register entry id => world.register entry before = (id, after)
  | .index key answer => world.index key before = (answer, after)

/-- The calls, made in their order, take the world from the first state to the last one, and all
answers are the world's. -/
inductive Makes (world : World σ) : σ → List Call → σ → Prop
  | nil (state : σ) : Makes world state [] state
  | cons {before middle after : σ} {call : Call} {calls : List Call}
      (first : world.Answers before call middle) (rest : Makes world middle calls after) :
      Makes world before (call :: calls) after

variable {world : World σ}

theorem Makes.single {before after : σ} {call : Call} (answered : world.Answers before call after) :
    world.Makes before [call] after :=
  .cons answered (.nil after)

theorem Makes.append {before middle after : σ} {calls more : List Call}
    (first : world.Makes before calls middle) (second : world.Makes middle more after) :
    world.Makes before (calls ++ more) after := by
  induction first with
  | nil state => exact second
  | cons answered _ ih => exact .cons answered (ih second)

theorem Makes.of_append {before after : σ} {calls more : List Call}
    (both : world.Makes before (calls ++ more) after) :
    ∃ middle, world.Makes before calls middle ∧ world.Makes middle more after := by
  induction calls generalizing before with
  | nil => exact ⟨before, .nil before, both⟩
  | cons call calls ih =>
      cases both with
      | cons answered rest =>
          obtain ⟨middle, front, behind⟩ := ih rest
          exact ⟨middle, .cons answered front, behind⟩

theorem Makes.of_single {before after : σ} {call : Call} (made : world.Makes before [call] after) :
    world.Answers before call after := by
  cases made with
  | cons answered rest =>
      cases rest
      exact answered

end World

namespace Record

variable {σ : Type} {world : World σ}

/-- A record that has been reached from another one by some more calls. -/
structure Continues (world : World σ) (before after : Record σ) (calls : List Call) : Prop where
  calls_eq : after.calls = before.calls ++ calls
  makes : world.Makes before.state calls after.state

namespace Continues

theorem refl (record : Record σ) : record.Continues world record [] :=
  ⟨(List.append_nil _).symm, .nil _⟩

theorem trans {before middle after : Record σ} {calls more : List Call}
    (first : before.Continues world middle calls) (second : middle.Continues world after more) :
    before.Continues world after (calls ++ more) := by
  constructor
  · rw [second.calls_eq, first.calls_eq, List.append_assoc]
  · exact first.makes.append second.makes

theorem register (token : Record σ → Bool) (entry : Entry) (record : Record σ) :
    record.Continues world ((world.recorded token).register entry record).2
      [.register entry ((world.recorded token).register entry record).1] :=
  ⟨rfl, .single rfl⟩

theorem index (token : Record σ → Bool) (key : Key) (record : Record σ) :
    record.Continues world ((world.recorded token).index key record).2
      [.index key ((world.recorded token).index key record).1] :=
  ⟨rfl, .single rfl⟩

theorem calls_of_start {state : σ} {after : Record σ} {calls : List Call}
    (step : (start state).Continues world after calls) : after.calls = calls := by
  rw [step.calls_eq, start, List.nil_append]

theorem eq_start_iff {state : σ} {after : Record σ}
    (step : (start state).Continues world after after.calls) :
    after = .start state ↔ after.calls = [] := by
  constructor
  · rintro rfl
    rfl
  · intro silent
    obtain ⟨state', calls⟩ := after
    cases silent
    have made := step.makes
    cases made
    rfl

end Continues

end Record

end RdfDataset
