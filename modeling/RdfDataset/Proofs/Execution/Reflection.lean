import RdfDataset.Proofs.Execution.Effects
import RdfDataset.Proofs.Memory

/-!
# Execution on a memory

An execution on a memory that mirrors some statements leaves one that mirrors, besides these, the
statements of the quads that it has inserted. The backend refuses nothing on the way, for all ids in
a key have been given out by the lexicon. This holds on every level of the execution, for failures
and under any token, as long as the lexicon has room.
-/

set_option autoImplicit false

namespace RdfDataset

open Insertion (Attempt Keyed)
open Memory (RegistersIn)

namespace Memory

variable {vocabulary : Finset Entry} {before after : Memory} {calls : List Call} {cancelled : Bool}
  {σ : Type} {token : Record σ → Bool} {setting : Setting} {quad : Quad}
  {statements : List Statement}

/-! ## One quad -/

theorem MirrorsWithin.keyed_ok (small : vocabulary.card < UInt32.size) {key : Key}
    (keyed : Keyed token setting quad (.ok key) calls)
    (made : (world cancelled).Makes before calls after)
    (inside : RegistersIn vocabulary calls)
    (mirrors : before.MirrorsWithin vocabulary statements) :
    ∃ statement more, quad.statement setting = .ok statement ∧ statement.KnownTo more ∧
      key = statement.key more ∧ (∀ entry ∈ more, entry ∈ vocabulary) ∧
      after.Mirrors more statements := by
  obtain ⟨entries, within, mirrors⟩ := mirrors
  have silent := keyed.registersFrom.indexed_eq_nil
  obtain ⟨more, _, within', mirrors', places⟩ := mirrors.makes small made inside silent within
  cases keyed with
  | @resolved statement _ means fits =>
      obtain ⟨known, same⟩ := key_of_registrations fits places
      exact ⟨statement, more, means, known, same, within', mirrors'⟩

/-- A quad that is inserted adds its statement. -/
theorem MirrorsWithin.attempt_ok (small : vocabulary.card < UInt32.size) {key : Key}
    (attempt : Attempt token setting quad (.ok key) calls)
    (made : (world cancelled).Makes before calls after)
    (inside : RegistersIn vocabulary calls)
    (mirrors : before.MirrorsWithin vocabulary statements) :
    ∃ statement, quad.statement setting = .ok statement ∧
      after.MirrorsWithin vocabulary (statements ++ [statement]) := by
  cases attempt with
  | inserted keyed =>
      obtain ⟨middle, front, last⟩ := made.of_append
      obtain ⟨statement, more, means, known, rfl, within, mirrors'⟩ :=
        mirrors.keyed_ok small keyed front inside.of_append.1
      have stored : middle.index (statement.key more) = (.ok (), after) := last.of_single
      have mirrors'' := (mirrors'.index known).2
      rw [stored] at mirrors''
      exact ⟨statement, means, more, within, mirrors''⟩

/-- A quad that is not inserted adds nothing, and it was not the backend that refused it. -/
theorem MirrorsWithin.attempt_error (small : vocabulary.card < UInt32.size) {cause : InsertionError}
    (attempt : Attempt token setting quad (.error cause) calls)
    (made : (world cancelled).Makes before calls after)
    (inside : RegistersIn vocabulary calls)
    (mirrors : before.MirrorsWithin vocabulary statements) :
    (∀ failure, cause ≠ .backend failure) ∧ after.MirrorsWithin vocabulary statements := by
  cases attempt with
  | refused keyed =>
      obtain ⟨middle, front, last⟩ := made.of_append
      obtain ⟨statement, more, means, known, rfl, within, mirrors'⟩ :=
        mirrors.keyed_ok small keyed front inside.of_append.1
      have refused : middle.index (statement.key more) = (.error _, after) := last.of_single
      have accepted := (mirrors'.index known).1
      rw [refused] at accepted
      cases accepted
  | cancelled keyed _ =>
      obtain ⟨_, more, _, _, _, within, mirrors'⟩ := mirrors.keyed_ok small keyed made inside
      exact ⟨(fun _ same => nomatch same), more, within, mirrors'⟩
  | failed keyed =>
      obtain ⟨entries, within, mirrors⟩ := mirrors
      have silent := keyed.registersFrom.indexed_eq_nil
      obtain ⟨more, _, within', mirrors', _⟩ := mirrors.makes small made inside silent within
      refine ⟨?_, more, within', mirrors'⟩
      intro failure
      cases keyed <;> exact (fun same => nomatch same)

end Memory

/-! ## The quads that an execution inserts -/

namespace Update

variable {σ υ : Type} (world : World σ) (setting : Setting)
  (operationOf : υ → Except ParseError Operation)

/-- Those quads of a unit whose insertion succeeds. -/
def insertedQuads : List Quad → σ → List Quad
  | [], _ => []
  | first :: rest, state =>
    match Insertion.insertQuad world setting first state with
    | (.error _, _) => []
    | (.ok _, state) => first :: insertedQuads rest state

/-- Those quads of one unit whose insertion succeeds, if the unit is an insertion of data. -/
def insertedUnit (unit : υ) (state : σ) : List Quad :=
  if world.isCancelled state then []
  else
    match operationOf unit with
    | .ok (.insertData quads) => insertedQuads world setting quads state
    | _ => []

/-- Those quads of the units whose insertion succeeds. -/
def insertedUnits : Nat → List υ → σ → List Quad
  | _, [], _ => []
  | number, unit :: rest, state =>
    insertedUnit world setting operationOf unit state ++
      match executeUnit world setting operationOf number unit state with
      | (.error _, _) => []
      | (.ok _, state) => insertedUnits (number + 1) rest state

end Update

/-! ## Records that reflect statements -/

/-- A memory that mirrors the statements, reached by calls that the backend never refused. -/
structure Reflects (vocabulary : Finset Entry) (statements : List Statement)
    (record : Record Memory) : Prop where
  mirrors : record.state.MirrorsWithin vocabulary statements
  accepted : ∀ call ∈ record.calls.filterMap Call.indexed?, call.2 = .ok ()

/-- What an execution has done to a record that reflects statements: the quads that it has inserted
have a meaning, the record reflects these meanings as well, and no failure is the backend's. -/
def Adds {α : Type} (vocabulary : Finset Entry) (statements : List Statement) (setting : Setting)
    (inserted : List Quad) (run : Outcome (Record Memory) ExecutionError α) : Prop :=
  ∃ added, inserted.map (Quad.statement setting) = added.map .ok ∧
    Reflects vocabulary (statements ++ added) run.2 ∧
    ∀ error, run.1 = .error error → error.storageError? = none

theorem Adds.nothing {α : Type} {vocabulary : Finset Entry} {statements : List Statement}
    {setting : Setting} {run : Outcome (Record Memory) ExecutionError α}
    (reflects : Reflects vocabulary statements run.2)
    (blameless : ∀ error, run.1 = .error error → error.storageError? = none) :
    Adds vocabulary statements setting [] run := by
  refine ⟨[], rfl, ?_, blameless⟩
  rw [List.append_nil]
  exact reflects

section Stages

variable (cancelled : Bool) (token : Record Memory → Bool) (setting : Setting)
  {vocabulary : Finset Entry} {statements : List Statement} {record : Record Memory}

theorem Reflects.insertQuad (small : vocabulary.card < UInt32.size) (quad : Quad)
    (reflects : Reflects vocabulary statements record)
    (inside : RegistersIn vocabulary
      (Insertion.insertQuad ((Memory.world cancelled).recorded token) setting quad
        record).2.calls) :
    match Insertion.insertQuad ((Memory.world cancelled).recorded token) setting quad record with
    | (.ok _, final) => ∃ statement, quad.statement setting = .ok statement ∧
        Reflects vocabulary (statements ++ [statement]) final
    | (.error cause, final) => (∀ failure, cause ≠ .backend failure) ∧
        Reflects vocabulary statements final := by
  obtain ⟨calls, step, attempt⟩ :=
    Insertion.insertQuad_attempt (Memory.world cancelled) token setting quad record
  cases outcome : Insertion.insertQuad ((Memory.world cancelled).recorded token) setting quad
      record with
  | mk answer final =>
      rw [outcome] at step attempt inside
      have here := (inside.of_continues step).2
      have accepted : (∀ call ∈ calls.filterMap Call.indexed?, call.2 = .ok ()) →
          ∀ call ∈ final.calls.filterMap Call.indexed?, call.2 = .ok () := by
        intro new call member
        rw [step.calls_eq, List.filterMap_append] at member
        rcases List.mem_append.mp member with old | last
        · exact reflects.accepted call old
        · exact new call last
      cases answer with
      | ok key =>
          obtain ⟨statement, means, mirrors⟩ :=
            reflects.mirrors.attempt_ok small attempt step.makes here
          refine ⟨statement, means, mirrors, accepted ?_⟩
          intro call member
          rw [attempt.indexed_of_ok, List.mem_singleton] at member
          rw [member]
      | error cause =>
          obtain ⟨blameless, mirrors⟩ :=
            reflects.mirrors.attempt_error small attempt step.makes here
          refine ⟨blameless, mirrors, accepted ?_⟩
          intro call member
          obtain ⟨key, indexed⟩ := attempt.indexed_of_error
          rw [indexed] at member
          cases cause with
          | backend failure => exact absurd rfl (blameless failure)
          | normalization _ _ => cases member
          | cancelled => cases member

theorem Update.failure_storageError? {unit quad : Nat} {cause : InsertionError}
    (blameless : ∀ failure, cause ≠ .backend failure) :
    (Update.failure unit quad cause).storageError? = none := by
  cases cause with
  | backend failure => exact absurd rfl (blameless failure)
  | normalization _ _ => rfl
  | cancelled => rfl

theorem Reflects.insertQuads (small : vocabulary.card < UInt32.size) (unit quad : Nat)
    (quads : List Quad) (reflects : Reflects vocabulary statements record)
    (inside : RegistersIn vocabulary
      (Update.insertQuads ((Memory.world cancelled).recorded token) setting unit quad quads
        record).2.calls) :
    Adds vocabulary statements setting
      (Update.insertedQuads ((Memory.world cancelled).recorded token) setting quads record)
      (Update.insertQuads ((Memory.world cancelled).recorded token) setting unit quad quads
        record) := by
  induction quads generalizing quad statements record with
  | nil => exact .nothing reflects (fun _ same => nomatch same)
  | cons first rest ih =>
      rw [Update.insertQuads_cons] at inside ⊢
      rw [Update.insertedQuads]
      have stage := reflects.insertQuad cancelled token setting small first
      cases outcome : Insertion.insertQuad ((Memory.world cancelled).recorded token) setting first
          record with
      | mk answer middle =>
          rw [outcome] at stage inside
          cases answer with
          | error cause =>
              obtain ⟨blameless, reflects'⟩ := stage inside
              refine .nothing reflects' ?_
              intro error same
              cases same
              exact Update.failure_storageError? blameless
          | ok key =>
              obtain ⟨calls, step⟩ := Update.insertQuads_continues (Memory.world cancelled) token
                setting unit (quad + 1) rest middle
              obtain ⟨statement, means, reflects'⟩ := stage (inside.of_continues step).1
              obtain ⟨added, meanings, reflects'', blameless⟩ := ih (quad + 1) reflects' inside
              refine ⟨statement :: added, ?_, ?_, blameless⟩
              · rw [List.map_cons, List.map_cons, means, meanings]
              · rw [List.append_assoc, List.singleton_append] at reflects''
                exact reflects''

variable {υ : Type} (operationOf : υ → Except ParseError Operation)

theorem Reflects.executeUnit (small : vocabulary.card < UInt32.size) (number : Nat) (unit : υ)
    (reflects : Reflects vocabulary statements record)
    (inside : RegistersIn vocabulary
      (Update.executeUnit ((Memory.world cancelled).recorded token) setting operationOf number unit
        record).2.calls) :
    Adds vocabulary statements setting
      (Update.insertedUnit ((Memory.world cancelled).recorded token) setting operationOf unit
        record)
      (Update.executeUnit ((Memory.world cancelled).recorded token) setting operationOf number unit
        record) := by
  cases live : ((Memory.world cancelled).recorded token).isCancelled record with
  | true =>
      rw [Update.executeUnit_cancelled _ setting number unit live, Update.insertedUnit, if_pos live]
      refine .nothing reflects ?_
      rintro error ⟨⟩
      rfl
  | false =>
      rw [Update.insertedUnit, if_neg (Bool.eq_false_iff.mp live)]
      rcases Update.operation_cases operationOf unit with
        ⟨cause, unreadable⟩ | ⟨quads, read⟩ | ⟨operation, read, other⟩
      · rw [Update.executeUnit_unreadable _ setting number live unreadable, unreadable]
        refine .nothing reflects ?_
        rintro error ⟨⟩
        rfl
      · rw [Update.executeUnit_insertData _ setting number live read] at inside ⊢
        rw [read]
        have stage := reflects.insertQuads cancelled token setting small number 0 quads
        cases outcome : Update.insertQuads ((Memory.world cancelled).recorded token) setting number
            0 quads record with
        | mk answer final =>
            rw [outcome] at stage inside
            cases answer with
            | error cause =>
                obtain ⟨added, meanings, reflects', blameless⟩ := stage inside
                refine ⟨added, meanings, reflects', ?_⟩
                rintro error ⟨⟩
                exact blameless cause rfl
            | ok _ =>
                obtain ⟨added, meanings, reflects', _⟩ := stage inside
                exact ⟨added, meanings, reflects', (fun _ same => nomatch same)⟩
      · rw [Update.executeUnit_unsupported _ setting number live read other, read]
        have nothing : (match (Except.ok operation : Except ParseError Operation) with
            | .ok (.insertData quads) =>
                Update.insertedQuads ((Memory.world cancelled).recorded token) setting quads record
            | _ => []) = [] := by
          cases operation with
          | insertData quads => exact absurd rfl (other quads)
          | _ => rfl
        rw [nothing]
        refine .nothing reflects ?_
        rintro error ⟨⟩
        rfl

theorem Reflects.executeUnits (small : vocabulary.card < UInt32.size) (number : Nat)
    (summary : Summary) (units : List υ) (reflects : Reflects vocabulary statements record)
    (inside : RegistersIn vocabulary
      (Update.executeUnits ((Memory.world cancelled).recorded token) setting operationOf number
        summary units record).2.calls) :
    Adds vocabulary statements setting
      (Update.insertedUnits ((Memory.world cancelled).recorded token) setting operationOf number
        units record)
      (Update.executeUnits ((Memory.world cancelled).recorded token) setting operationOf number
        summary units record) := by
  induction units generalizing number summary statements record with
  | nil => exact .nothing reflects (fun _ same => nomatch same)
  | cons unit rest ih =>
      rw [Update.executeUnits_cons] at inside ⊢
      rw [Update.insertedUnits]
      have stage := reflects.executeUnit cancelled token setting operationOf small number unit
      cases outcome : Update.executeUnit ((Memory.world cancelled).recorded token) setting
          operationOf number unit record with
      | mk answer middle =>
          rw [outcome] at stage inside
          cases answer with
          | error cause =>
              obtain ⟨added, meanings, reflects', blameless⟩ := stage inside
              rw [List.append_nil]
              refine ⟨added, meanings, reflects', ?_⟩
              rintro error ⟨⟩
              exact blameless cause rfl
          | ok quads =>
              obtain ⟨calls, step⟩ := Update.executeUnits_continues (Memory.world cancelled) token
                setting operationOf (number + 1) (summary.addUnit quads) rest middle
              obtain ⟨added, meanings, reflects', _⟩ := stage (inside.of_continues step).1
              obtain ⟨more, meanings', reflects'', blameless⟩ :=
                ih (number + 1) (summary.addUnit quads) reflects' inside
              refine ⟨added ++ more, ?_, ?_, blameless⟩
              · rw [List.map_append, List.map_append, meanings, meanings']
              · rw [← List.append_assoc]
                exact reflects''

end Stages

end RdfDataset
