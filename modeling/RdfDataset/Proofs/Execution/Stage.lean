import RdfDataset.Dispatch
import RdfDataset.Proofs.Execution.Record
import RdfDataset.Proofs.Statement

/-!
# Stages of an execution

Insertion of a quad, of the quads of a unit and of the units of an update all have one shape: a
stage that may fail is followed by another one, which starts in the state that the first one left.
The equations of this module bring the executor into this shape, so that a fact about stages holds
on every level.
-/

set_option autoImplicit false

namespace RdfDataset

/-- The outcome of a stage: an answer or a failure, and the state it leaves. -/
abbrev Outcome (σ ε α : Type) := Except ε α × σ

namespace Outcome

variable {σ ε δ α β : Type}

/-- Goes on after a success. A failure is final and passed on in the words of the next level. -/
def next (wrap : ε → δ) (continuation : α → σ → Outcome σ δ β) : Outcome σ ε α → Outcome σ δ β
  | (.error cause, state) => (.error (wrap cause), state)
  | (.ok answer, state) => continuation answer state

theorem next_continues {world : World σ} {wrap : ε → δ}
    {continuation : α → Record σ → Outcome (Record σ) δ β} {record : Record σ}
    {outcome : Outcome (Record σ) ε α}
    (first : ∃ calls, record.Continues world outcome.2 calls)
    (second : ∀ answer (middle : Record σ),
      ∃ calls, middle.Continues world (continuation answer middle).2 calls) :
    ∃ calls, record.Continues world (outcome.next wrap continuation).2 calls := by
  obtain ⟨answer, middle⟩ := outcome
  obtain ⟨calls, step⟩ := first
  cases answer with
  | error cause => exact ⟨calls, step⟩
  | ok answer =>
      obtain ⟨more, step'⟩ := second answer middle
      exact ⟨calls ++ more, step.trans step'⟩

end Outcome

section Equations

variable {σ υ : Type} (world : World σ) (setting : Setting)
  (operationOf : υ → Except ParseError Operation)

namespace Insertion

theorem normalize_unknown {term : Term} {cause : NormalizationError} (state : σ)
    (unknown : setting.entry term = .error cause) :
    normalize world setting term state = (.error cause, state) := by
  rw [normalize, show term.entry _ _ = _ from unknown]

theorem normalize_cancelled {term : Term} {entry : Entry} {state : σ}
    (known : setting.entry term = .ok entry) (cancelled : world.isCancelled state = true) :
    normalize world setting term state = (.error .cancelled, state) := by
  simp only [normalize, show term.entry _ _ = _ from known, cancelled, if_true]

theorem normalize_registered {term : Term} {entry : Entry} {state : σ}
    (known : setting.entry term = .ok entry) (live : world.isCancelled state = false) :
    normalize world setting term state =
      (.ok (world.register entry state).1, (world.register entry state).2) := by
  simp only [normalize, show term.entry _ _ = _ from known, live, Bool.false_eq_true, if_false]

theorem store_cancelled (key : Key) {state : σ} (cancelled : world.isCancelled state = true) :
    store world key state = (.error .cancelled, state) := by
  rw [store, if_pos cancelled]

theorem store_indexed (key : Key) {state : σ} (live : world.isCancelled state = false) :
    store world key state =
      (((world.index key state).1.mapError .backend).map fun _ => key,
        (world.index key state).2) := by
  rw [store, if_neg (Bool.eq_false_iff.mp live)]

theorem insertQuad_eq_next (quad : Quad) (state : σ) :
    insertQuad world setting quad state =
      Outcome.next id (store world) (key world setting quad state) := by
  unfold insertQuad
  cases key world setting quad state with
  | mk answer state => cases answer <;> rfl

end Insertion

namespace Update

theorem insertQuads_cons (unit quad : Nat) (first : Quad) (rest : List Quad) (state : σ) :
    insertQuads world setting unit quad (first :: rest) state =
      Outcome.next (failure unit quad) (fun _ => insertQuads world setting unit (quad + 1) rest)
        (Insertion.insertQuad world setting first state) := by
  rw [insertQuads]
  cases Insertion.insertQuad world setting first state with
  | mk answer state => cases answer <;> rfl

/-- A unit is unreadable, an insertion of data, or an operation that is not carried out. -/
theorem operation_cases (unit : υ) :
    (∃ cause, operationOf unit = .error cause) ∨
      (∃ quads, operationOf unit = .ok (.insertData quads)) ∨
      ∃ operation, operationOf unit = .ok operation ∧ ∀ quads, operation ≠ .insertData quads := by
  cases operationOf unit with
  | error cause => exact Or.inl ⟨cause, rfl⟩
  | ok operation =>
      right
      cases operation with
      | insertData quads => exact Or.inl ⟨quads, rfl⟩
      | _ => exact Or.inr ⟨_, rfl, fun _ h => nomatch h⟩

variable {operationOf}

theorem executeUnit_cancelled (number : Nat) (unit : υ) {state : σ}
    (cancelled : world.isCancelled state = true) :
    executeUnit world setting operationOf number unit state = (.error .cancelled, state) := by
  simp only [executeUnit, cancelled, if_true]

theorem executeUnit_unreadable (number : Nat) {unit : υ} {state : σ} {cause : ParseError}
    (live : world.isCancelled state = false) (unreadable : operationOf unit = .error cause) :
    executeUnit world setting operationOf number unit state = (.error (.parsing cause), state) := by
  simp only [executeUnit, live, unreadable, Bool.false_eq_true, if_false]

theorem executeUnit_unsupported (number : Nat) {unit : υ} {state : σ} {operation : Operation}
    (live : world.isCancelled state = false) (read : operationOf unit = .ok operation)
    (other : ∀ quads, operation ≠ .insertData quads) :
    executeUnit world setting operationOf number unit state =
      (.error (.unsupportedUnit operation.kind), state) := by
  simp only [executeUnit, live, read, Bool.false_eq_true, if_false]

theorem executeUnit_insertData (number : Nat) {unit : υ} {state : σ} {quads : List Quad}
    (live : world.isCancelled state = false) (read : operationOf unit = .ok (.insertData quads)) :
    executeUnit world setting operationOf number unit state =
      Outcome.next id (fun _ state => (.ok quads.length, state))
        (insertQuads world setting number 0 quads state) := by
  simp only [executeUnit, live, read, Bool.false_eq_true, if_false]
  cases insertQuads world setting number 0 quads state with
  | mk answer state => cases answer <;> rfl

variable (operationOf)

theorem executeUnits_cons (number : Nat) (summary : Summary) (unit : υ) (rest : List υ)
    (state : σ) :
    executeUnits world setting operationOf number summary (unit :: rest) state =
      Outcome.next id
        (fun quads =>
          executeUnits world setting operationOf (number + 1) (summary.addUnit quads) rest)
        (executeUnit world setting operationOf number unit state) := by
  rw [executeUnits]
  cases executeUnit world setting operationOf number unit state with
  | mk answer state => cases answer <;> rfl

end Update

end Equations

end RdfDataset
