import RdfDataset.Dispatch
import RdfDataset.Memory
import RdfDataset.Proofs.Execution.Record

/-!
# Requests of every kind

Requests come in through three entrances, texts of all kinds among them, and the shared token may be
cancelled at any time between two of them. Whatever comes in, only the trees of updates are ever
executed: the calls and the state are those of the updates alone, in their order. Everything else is
refused, with a failure that tells why and without any effect.
-/

set_option autoImplicit false

namespace RdfDataset

/-- The tree of a text that is to be executed. -/
def RequestReader.update? {υ : Type} (reader : RequestReader υ) (text : String) :
    Option (RequestTree υ) :=
  (reader.tree text).toOption.filter RequestTree.isUpdateRequest

namespace Dispatch

variable {σ υ : Type}

/-! ## Refusals -/

/-- The failure of a text that is not executed. Root and kind of a tree count as they are, not as
they are written. -/
inductive Refused : Except ParseError (RequestTree υ) → ExecutionError → Prop
  | unread (cause : ParseError) : Refused (.error cause) (.parsing cause)
  | retrieval {tree : RequestTree υ} (root : tree.token = .query) (kind : tree.kind = .query) :
      Refused (.ok tree) (.notImplemented retrievalFeature)
  | foreign {tree : RequestTree υ}
      (other : tree.token = .query → tree.kind ≠ .update ∧ tree.kind ≠ .query) :
      Refused (.ok tree) (.unsupportedTree tree.token tree.kind)

theorem Refused.storageError? {reading : Except ParseError (RequestTree υ)}
    {error : ExecutionError} (refused : Refused reading error) : error.storageError? = none := by
  cases refused <;> rfl

/-- A text is executed as an update, or refused without any effect. -/
theorem update_cases (literals : LiteralOptions) (reader : RequestReader υ) (text : String) :
    (∃ tree, reader.update? text = some tree ∧ ∀ (world : World σ) (state : σ),
        update world literals reader text state =
          Update.execute world literals reader.operation tree state) ∨
      (reader.update? text = none ∧ ∃ error, Refused (reader.tree text) error ∧
        ∀ (world : World σ) (state : σ),
          update world literals reader text state = (.error error, state)) := by
  unfold RequestReader.update? update
  cases reader.tree text with
  | error cause => exact Or.inr ⟨rfl, _, .unread cause, fun _ _ => rfl⟩
  | ok tree =>
      obtain ⟨token, kind, prologue, units⟩ := tree
      cases token <;> cases kind
      case query.update => exact Or.inl ⟨_, rfl, fun _ _ => rfl⟩
      case query.query => exact Or.inr ⟨rfl, _, .retrieval rfl rfl, fun _ _ => rfl⟩
      all_goals exact Or.inr ⟨rfl, _, .foreign (by simp), fun _ _ => rfl⟩

/-! ## Entrances -/

inductive Entrance where
  | update
  | executeWithCancellation
  | execute
deriving DecidableEq

namespace Entrance

/-- Where a request is executed. One of the entrances has a token of its own. -/
def world (entrance : Entrance) (shared : World σ) : World σ :=
  match entrance with
  | execute => shared.uncancelled
  | _ => shared

/-- What is told of a summary. -/
def report (entrance : Entrance) (summary : Summary) : Option Summary :=
  match entrance with
  | update => some summary
  | _ => none

def serve (entrance : Entrance) (world : World σ) (literals : LiteralOptions)
    (reader : RequestReader υ) (text : String) (state : σ) :
    Except ExecutionError (Option Summary) × σ :=
  match entrance with
  | update =>
    let (answer, state) := Dispatch.update world literals reader text state
    (answer.map some, state)
  | executeWithCancellation =>
    let (answer, state) := Dispatch.executeWithCancellation world literals reader text state
    (answer.map fun _ => none, state)
  | execute =>
    let (answer, state) := Dispatch.execute world literals reader text state
    (answer.map fun _ => none, state)

theorem serve_eq_update (entrance : Entrance) (world : World σ) (literals : LiteralOptions)
    (reader : RequestReader υ) (text : String) (state : σ) :
    entrance.serve world literals reader text state =
      ((Dispatch.update (entrance.world world) literals reader text state).1.map entrance.report,
        (Dispatch.update (entrance.world world) literals reader text state).2) := by
  have twice (answer : Except ExecutionError Summary) :
      (answer.map fun _ => ()).map (fun _ => (none : Option Summary)) =
        answer.map fun _ => none := by
    cases answer <;> rfl
  cases entrance with
  | update => rfl
  | executeWithCancellation => exact congrArg (·, _) (twice _)
  | execute => exact congrArg (·, _) (twice _)

end Entrance

/-! ## Sequences of requests -/

/-- What happens to an engine: a request comes in, or the shared token is cancelled. -/
inductive Step where
  | request (entrance : Entrance) (text : String)
  | cancel

/-- What is left of the steps when nothing is kept but updates: trees to be executed, and the
cancellations between them. -/
inductive Deed (υ : Type) where
  | execute (entrance : Entrance) (tree : RequestTree υ)
  | cancel

def Step.deed? (reader : RequestReader υ) : Step → Option (Deed υ)
  | request entrance text => (reader.update? text).map (.execute entrance)
  | cancel => some .cancel

section Sequences

variable (world : World σ) (cancel : σ → σ) (literals : LiteralOptions)

/-- Answers every request in turn. -/
def serveAll (reader : RequestReader υ) :
    List Step → σ → List (Except ExecutionError (Option Summary)) × σ
  | [], state => ([], state)
  | .request entrance text :: rest, state =>
    let (answer, state) := entrance.serve world literals reader text state
    let (answers, state) := serveAll reader rest state
    (answer :: answers, state)
  | .cancel :: rest, state => serveAll reader rest (cancel state)

/-- Executes trees as updates and does nothing else. -/
def executeAll (operationOf : υ → Except ParseError Operation) : List (Deed υ) → σ → σ
  | [], state => state
  | .execute entrance tree :: rest, state =>
    executeAll operationOf rest
      (Update.execute (entrance.world world) literals operationOf tree state).2
  | .cancel :: rest, state => executeAll operationOf rest (cancel state)

theorem serveAll_eq_executeAll (reader : RequestReader υ) (steps : List Step) (state : σ) :
    (serveAll world cancel literals reader steps state).2 =
      executeAll world cancel literals reader.operation (steps.filterMap (Step.deed? reader))
        state := by
  induction steps generalizing state with
  | nil => rfl
  | cons step rest ih =>
      cases step with
      | cancel => exact ih (cancel state)
      | request entrance text =>
          have behind := ih (entrance.serve world literals reader text state).2
          have served := entrance.serve_eq_update world literals reader text state
          rcases update_cases literals reader text with
            ⟨tree, read, executed⟩ | ⟨unread, error, _, refused⟩
          · have deed : Step.deed? reader (.request entrance text) =
                some (.execute entrance tree) := by
              simp [Step.deed?, read]
            rw [executed] at served
            rw [served] at behind
            rw [List.filterMap_cons_some deed]
            simpa only [serveAll, served, executeAll] using behind
          · have nothing : Step.deed? reader (.request entrance text) = none := by
              simp [Step.deed?, unread]
            rw [refused] at served
            rw [served] at behind
            rw [List.filterMap_cons_none nothing]
            simpa only [serveAll, served] using behind

end Sequences

/-- Of all requests that come in, in any order and through any entrance, only updates have effects:
the calls and the state are those of the trees of updates, executed one after the other, and a
request of another kind is refused with the failure for its kind and changes nothing. The entrances
differ only in their token and in what they tell of a success. -/
theorem only_updates_executed (world : World σ) (token : Record σ → Bool)
    (cancel : Record σ → Record σ) (literals : LiteralOptions) (reader : RequestReader υ) :
    let shared := world.recorded token
    (∀ steps record, (serveAll shared cancel literals reader steps record).2 =
        executeAll shared cancel literals reader.operation
          (steps.filterMap (Step.deed? reader)) record) ∧
      (∀ (entrance : Entrance) (text : String) (record : Record σ),
        match reader.update? text with
        | some tree =>
          let executed :=
            Update.execute (entrance.world shared) literals reader.operation tree record
          entrance.serve shared literals reader text record =
            (executed.1.map entrance.report, executed.2)
        | none => ∃ error, Refused (reader.tree text) error ∧
            entrance.serve shared literals reader text record = (.error error, record)) ∧
      ∀ (text : String) (record : Record σ),
        let own := world.recorded Record.never
        executeWithCancellation shared literals reader text record =
            ((update shared literals reader text record).1.map fun _ => (),
              (update shared literals reader text record).2) ∧
          execute shared literals reader text record =
            ((update own literals reader text record).1.map fun _ => (),
              (update own literals reader text record).2) := by
  intro shared
  refine ⟨serveAll_eq_executeAll shared cancel literals reader, ?_, fun _ _ => ⟨rfl, rfl⟩⟩
  intro entrance text record
  have served := entrance.serve_eq_update shared literals reader text record
  rcases update_cases literals reader text with
    ⟨tree, read, executed⟩ | ⟨unread, error, why, refused⟩
  · rw [executed] at served
    rw [read]
    exact served
  · rw [refused] at served
    rw [unread]
    exact ⟨error, why, served⟩

/-- It takes more than being written like an update. -/
example :
    let tree : RequestTree Operation := ⟨.other "query", .update, {}, [.insertData []]⟩
    (update (Memory.world false) {} ⟨fun _ => .ok tree, .ok⟩ "" .empty).1 =
      .error (.unsupportedTree (.other "query") .update) := rfl

end Dispatch

end RdfDataset
