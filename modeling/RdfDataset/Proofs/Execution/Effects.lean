import RdfDataset.Proofs.Execution.Ending
import RdfDataset.Proofs.Execution.View

/-!
# The effects of an update

What an update has done when it is over, read off its answer alone: a success has inserted every
quad, a failure names the place at which it occurred, and everything before that place, and nothing
behind it, has had an effect.
-/

set_option autoImplicit false

namespace RdfDataset

variable {σ : Type}

namespace Insertion

variable {token : Record σ → Bool} {setting : Setting} {quad : Quad} {calls : List Call}

/-- The answer of the backend to a key that it does not take, if the failure is the backend's. -/
def refusal (key : Key) : InsertionError → List (Key × Except StorageError Unit)
  | .backend cause => [(key, .error cause)]
  | _ => []

theorem Keyed.registersFrom {answer : Except InsertionError Key}
    (keyed : Keyed token setting quad answer calls) :
    RegistersFrom (quad.entries setting) calls := by
  cases keyed with
  | resolved means _ =>
      rw [Quad.entries_of_statement means]
      exact Statement.registrations_registersFrom _ _
  | unresolved _ registers => exact registers
  | cancelled _ registers => exact registers

theorem Attempt.indexed_of_ok {key : Key} (attempt : Attempt token setting quad (.ok key) calls) :
    calls.filterMap Call.indexed? = [(key, .ok ())] := by
  cases attempt with
  | inserted keyed =>
      rw [List.filterMap_append, keyed.registersFrom.indexed_eq_nil]
      rfl

theorem Attempt.indexed_of_error {cause : InsertionError}
    (attempt : Attempt token setting quad (.error cause) calls) :
    ∃ key, calls.filterMap Call.indexed? = refusal key cause := by
  cases attempt with
  | @refused key _ _ keyed =>
      refine ⟨key, ?_⟩
      rw [List.filterMap_append, keyed.registersFrom.indexed_eq_nil]
      rfl
  | @cancelled key _ _ keyed _ => exact ⟨key, keyed.registersFrom.indexed_eq_nil⟩
  | failed keyed =>
      -- Whatever stands for the key here, a failure of the terms asks the backend nothing.
      refine ⟨⟨0, 0, 0, 0⟩, ?_⟩
      have none_asked := keyed.registersFrom.indexed_eq_nil
      cases keyed with
      | unresolved _ _ => exact none_asked
      | cancelled _ _ => exact none_asked

theorem Attempt.registered_mem {answer : Except InsertionError Key}
    (attempt : Attempt token setting quad answer calls) {entry : Entry}
    (registered : some entry ∈ calls.map Call.registered?) : entry ∈ quad.entries setting := by
  obtain ⟨call, member, same⟩ := List.mem_map.mp registered
  have of_keyed {answer' : Except InsertionError Key} {front : List Call}
      (keyed : Keyed token setting quad answer' front) (inside : call ∈ front) :
      entry ∈ quad.entries setting := by
    obtain ⟨entry', known, equal⟩ := keyed.registersFrom.registered_of_mem inside
    rw [same] at equal
    cases equal
    exact known
  have of_index {front : List Call} {key : Key} {reply : Except StorageError Unit}
      (inside : call ∈ front ++ [.index key reply]) : call ∈ front := by
    rcases List.mem_append.mp inside with before | last
    · exact before
    · rw [List.mem_singleton.mp last] at same
      cases same
  cases attempt with
  | inserted keyed => exact of_keyed keyed (of_index member)
  | refused keyed => exact of_keyed keyed (of_index member)
  | cancelled keyed _ => exact of_keyed keyed member
  | failed keyed => exact of_keyed keyed member

/-- Without a cancellation no quad is reported as cancelled. -/
theorem Attempt.ne_cancelled {cause : InsertionError}
    (attempt : Attempt (σ := σ) Record.never setting quad (.error cause) calls) :
    cause ≠ .cancelled := by
  rintro rfl
  cases attempt with
  | cancelled _ seen => cases seen
  | failed keyed =>
      cases keyed with
      | cancelled seen _ => cases seen

end Insertion

namespace Update

open Insertion (Attempt refusal)

variable {υ : Type} {setting : Setting}

theorem Inserted.indexed {token : Record σ → Bool} {quads : List Quad} {keys : List Key}
    {calls : List Call} (inserted : Inserted token setting quads keys calls) :
    calls.filterMap Call.indexed? = keys.map fun key => (key, .ok ()) := by
  induction inserted with
  | nil => rfl
  | cons attempt _ ih =>
      rw [List.filterMap_append, attempt.indexed_of_ok, ih]
      rfl

theorem Inserted.length_eq {token : Record σ → Bool} {quads : List Quad} {keys : List Key}
    {calls : List Call} (inserted : Inserted token setting quads keys calls) :
    keys.length = quads.length := by
  induction inserted with
  | nil => rfl
  | cons _ _ ih => rw [List.length_cons, List.length_cons, ih]

/-! ## What is behind a failure -/

/-- The run of every update that begins with the same declarations and is read in the same way as
far as `front` goes. -/
def DecidedBy (world : World σ) (literals : LiteralOptions) (prologue : Prologue) (state : σ)
    (run : Outcome (Record σ) ExecutionError Summary)
    (front : List (Except ParseError Operation)) : Prop :=
  ∀ ⦃υ : Type⦄ (operationOf : υ → Except ParseError Operation) (tree : RequestTree υ),
    tree.prologue = prologue → front <+: tree.units.map operationOf →
      execute (world.recorded Record.never) literals operationOf tree (.start state) = run

/-- A failure hides what is behind it. The unit that fails may be read as anything that fails in the
same way. -/
theorem decidedBy_of_stop {world : World σ} {literals : LiteralOptions} {prologue : Prologue}
    {state : σ} {operationOf : υ → Except ParseError Operation} {before : List υ}
    {reached : Summary} {middle final : Record σ} {error : ExecutionError}
    {read : Except ParseError Operation}
    (front : executeUnits (world.recorded Record.never) ⟨literals, .ofPrologue prologue⟩ operationOf
      0 .zero before (.start state) = (.ok reached, middle))
    (here : executeUnit (world.recorded Record.never) ⟨literals, .ofPrologue prologue⟩ id
      before.length read middle = (.error error, final)) :
    DecidedBy world literals prologue state (.error error, final)
      (before.map operationOf ++ [read]) := by
  rintro υ' operationOf' tree rfl ⟨behind, units⟩
  rw [execute, executeUnits_map, ← units, List.append_assoc, executeUnits_append,
    ← executeUnits_map, front, Outcome.next, List.singleton_append, executeUnits_cons,
    List.length_map, Nat.zero_add, here]
  rfl

/-- Quads behind the first failing one do not change how the unit fails. -/
theorem executeUnit_insertData_of_stop {world : World σ} {number : Nat} {done rest : List Quad}
    {last : Quad} {state middle final : σ} {cause : InsertionError}
    (live : world.isCancelled state = false)
    (before : insertQuads world setting number 0 done state = (.ok (), middle))
    (here : Insertion.insertQuad world setting last middle = (.error cause, final)) :
    executeUnit world setting id number (.ok (.insertData (done ++ last :: rest))) state =
      (.error (failure number done.length cause), final) := by
  have read : id (.ok (.insertData (done ++ last :: rest)) : Except ParseError Operation) =
      .ok (.insertData (done ++ last :: rest)) := rfl
  rw [executeUnit_insertData world setting number live read, insertQuads_append, before,
    Outcome.next, insertQuads_cons, here, Nat.zero_add]
  rfl

/-! ## The effects -/

/-- The quads are inserted one after the other, all of them with success, and nothing else is
called. -/
structure AllInserted (token : Record σ → Bool) (setting : Setting) (quads : List Quad)
    (keys : List Key) (calls : List Call) : Prop where
  inserted : Inserted token setting quads keys calls
  length_eq : keys.length = quads.length
  indexed : calls.filterMap Call.indexed? = keys.map fun key => (key, .ok ())

theorem Inserted.all {token : Record σ → Bool} {quads : List Quad} {keys : List Key}
    {calls : List Call} (inserted : Inserted token setting quads keys calls) :
    AllInserted token setting quads keys calls :=
  ⟨inserted, inserted.length_eq, inserted.indexed⟩

/-- What the answer of an update says about its effects. A failure without a place in the request
does not occur. -/
def Effects (world : World σ) (literals : LiteralOptions)
    (operationOf : υ → Except ParseError Operation) (tree : RequestTree υ) (state : σ)
    (run : Outcome (Record σ) ExecutionError Summary) : Prop :=
  let token : Record σ → Bool := Record.never
  let setting : Setting := ⟨literals, .ofPrologue tree.prologue⟩
  match run.1 with
  | .ok summary => ∃ blocks keys, ReadsAs operationOf tree.units blocks ∧
      summary = ⟨tree.units.length, blocks.flatten.length⟩ ∧
      AllInserted token setting blocks.flatten keys run.2.calls
  | .error (.quadInsertion number place cause) =>
      ∃ before unit behind blocks done last rest keys key calls more,
        tree.units = before ++ unit :: behind ∧ before.length = number ∧ done.length = place ∧
        ReadsAs operationOf before blocks ∧
        operationOf unit = .ok (.insertData (done ++ last :: rest)) ∧
        run.2.calls = calls ++ more ∧
        AllInserted token setting (blocks.flatten ++ done) keys calls ∧
        Attempt token setting last (.error cause) more ∧
        more.filterMap Call.indexed? = refusal key cause ∧
        (∀ entry, some entry ∈ more.map Call.registered? → entry ∈ last.entries setting) ∧
        ∀ rest', DecidedBy world literals tree.prologue state run
          (before.map operationOf ++ [.ok (.insertData (done ++ last :: rest'))])
  | .error (.unsupportedUnit kind) => ∃ before unit behind blocks keys operation,
      tree.units = before ++ unit :: behind ∧ ReadsAs operationOf before blocks ∧
      operationOf unit = .ok operation ∧ (∀ quads, operation ≠ .insertData quads) ∧
      kind = operation.kind ∧ AllInserted token setting blocks.flatten keys run.2.calls ∧
      DecidedBy world literals tree.prologue state run (before.map operationOf ++ [.ok operation])
  | .error (.parsing cause) => ∃ before unit behind blocks keys,
      tree.units = before ++ unit :: behind ∧ ReadsAs operationOf before blocks ∧
      operationOf unit = .error cause ∧ AllInserted token setting blocks.flatten keys run.2.calls ∧
      DecidedBy world literals tree.prologue state run (before.map operationOf ++ [.error cause])
  | .error _ => False

theorem effects_of_ok {world : World σ} {literals : LiteralOptions}
    {operationOf : υ → Except ParseError Operation} {tree : RequestTree υ} {state : σ}
    {summary : Summary} {final : Record σ}
    (succeeded : execute (world.recorded Record.never) literals operationOf tree (.start state) =
      (.ok summary, final)) :
    Effects world literals operationOf tree state (.ok summary, final) := by
  obtain ⟨blocks, keys, calls, reads, sum, step, inserted⟩ := executeUnits_ok succeeded
  refine ⟨blocks, keys, reads, ?_, ?_⟩
  · rw [sum, Summary.zero, Nat.zero_add, Nat.zero_add]
  · rw [step.calls_of_start]
    exact inserted.all

theorem effects_of_error {world : World σ} {literals : LiteralOptions}
    {operationOf : υ → Except ParseError Operation} {tree : RequestTree υ} {state : σ}
    {error : ExecutionError} {final : Record σ}
    (stopped : execute (world.recorded Record.never) literals operationOf tree (.start state) =
      (.error error, final)) :
    Effects world literals operationOf tree state (.error error, final) := by
  obtain ⟨before, unit, behind, reached, middle, split, front, here⟩ := executeUnits_stops stopped
  rw [Nat.zero_add] at here
  obtain ⟨blocks, keys, calls, reads, _, step, inserted⟩ := executeUnits_ok front
  have decided := decidedBy_of_stop front here
  rcases executeUnit_stops rfl here with
    ⟨cause, unreadable, rfl, rfl⟩ | ⟨operation, read, other, rfl, rfl⟩ |
    ⟨done, last, rest, cause, next, read, rfl, inside, failed⟩
  · rw [← step.calls_of_start] at inserted
    rw [unreadable] at decided
    exact ⟨before, unit, behind, blocks, keys, split, reads, unreadable, inserted.all, decided⟩
  · rw [← step.calls_of_start] at inserted
    rw [read] at decided
    exact ⟨before, unit, behind, blocks, keys, operation, split, reads, read, other, rfl,
      inserted.all, decided⟩
  · obtain ⟨keys', calls', step', inserted'⟩ := insertQuads_ok inside
    obtain ⟨more, step'', attempt⟩ := Insertion.insertQuad_attempt world Record.never
      ⟨literals, .ofPrologue tree.prologue⟩ last next
    rw [failed] at step'' attempt
    have place : failure before.length done.length cause =
        .quadInsertion before.length done.length cause := by
      cases cause with
      | cancelled => exact absurd rfl attempt.ne_cancelled
      | _ => rfl
    obtain ⟨key, indexed⟩ := attempt.indexed_of_error
    rw [place]
    refine ⟨before, unit, behind, blocks, done, last, rest, keys ++ keys', key, calls ++ calls',
      more, split, rfl, rfl, reads, read, ((step.trans step').trans step'').calls_of_start,
      (inserted.append inserted').all, attempt, indexed, fun _ => attempt.registered_mem, ?_⟩
    intro rest'
    rw [← place]
    exact decidedBy_of_stop front (executeUnit_insertData_of_stop rfl inside failed)

/-- The answer of an update tells its effects exactly. A success has inserted every quad of every
unit once, in their order. A failing quad has been reached through successful insertions of all
quads before it, was refused by the backend exactly if the failure is the backend's, and hides what
is behind it; so does a unit that cannot be read or is no insertion of data. -/
theorem execute_effects (world : World σ) (literals : LiteralOptions)
    (operationOf : υ → Except ParseError Operation) (tree : RequestTree υ) (state : σ) :
    let run := execute (world.recorded Record.never) literals operationOf tree (.start state)
    execute world.uncancelled literals operationOf tree state = Outcome.view Record.state run ∧
      world.Makes state run.2.calls run.2.state ∧
      Effects world literals operationOf tree state run := by
  intro run
  have seen := world.recorded_shows.execute literals operationOf tree (.start state)
  refine ⟨seen, execute_makes world Record.never literals operationOf tree state, ?_⟩
  cases outcome : run with
  | mk answer final =>
      cases answer with
      | ok summary => exact effects_of_ok outcome
      | error error => exact effects_of_error outcome

end Update

end RdfDataset
