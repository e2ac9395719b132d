import RdfDataset.Proofs.Dispatch
import RdfDataset.Proofs.Execution.Ending
import RdfDataset.Proofs.Insertion

/-!
# What a failure tells

A failure goes through three layers, and each of them has a cancellation of its own. Whatever fails,
and wherever, the failure that is reported at the end says the same: it is a cancellation only if
the token is cancelled by then, and then nothing else; or it names a quad of the request and carries one
cause, that of the term at the position named or that of the backend, as it was given; or it carries
no cause of a quad at all.
-/

set_option autoImplicit false

namespace RdfDataset

variable {σ υ : Type}

/-- A cancellation is part of the failure, wrapped or not. -/
inductive ExecutionError.TellsCancellation : ExecutionError → Prop
  | plain : TellsCancellation .cancelled
  | quad (unit place : Nat) : TellsCancellation (.quadInsertion unit place .cancelled)
  | term (unit place : Nat) (position : Position) :
      TellsCancellation (.quadInsertion unit place (.normalization position .cancelled))

/-- A cancellation is not taken back by anything that happens later. -/
def Record.Lasting (world : World σ) (token : Record σ → Bool) : Prop :=
  ∀ before after calls, before.Continues world after calls → token before = true →
    token after = true

theorem Record.after_lasting (world : World σ) (limit : Nat) :
    Lasting world (Record.after limit) := by
  intro before after calls step cancelled
  have length := congrArg List.length step.calls_eq
  simp only [Record.after, decide_eq_true_eq] at cancelled ⊢
  rw [List.length_append] at length
  omega

/-! ## Where a cancellation is seen -/

namespace Insertion

variable {world : World σ} {token : Record σ → Bool} {setting : Setting} {quad : Quad}

theorem normalize_seen {term : Term} {record : Record σ}
    (failed : (normalize (world.recorded token) setting term record).1 = .error .cancelled) :
    token (normalize (world.recorded token) setting term record).2 = true := by
  cases known : setting.entry term with
  | error cause =>
      rw [normalize_unknown _ setting record known] at failed
      cases failed
      exact absurd known (setting.entry_ne_cancelled term)
  | ok entry =>
      cases seen : (world.recorded token).isCancelled record with
      | true =>
          rw [normalize_cancelled _ setting known seen]
          exact seen
      | false =>
          rw [normalize_registered _ setting known seen] at failed
          cases failed

theorem attempt_seen {position : Position} {record : Record σ}
    (failed : (attempt (world.recorded token) setting quad position record).1 =
      .error .cancelled) :
    token (attempt (world.recorded token) setting quad position record).2 = true := by
  unfold attempt at failed ⊢
  cases named : quad.term? position with
  | none =>
      rw [named] at failed
      cases failed
  | some term =>
      rw [named] at failed
      exact normalize_seen failed

/-- The token stays cancelled while the other positions are attempted. -/
theorem attemptAll_seen (lasting : Record.Lasting world token) {order : List Position}
    {position : Position} (member : position ∈ order) {record : Record σ}
    (failed : (attemptAll (world.recorded token) setting quad order record).1 position =
      .error .cancelled) :
    token (attemptAll (world.recorded token) setting quad order record).2 = true := by
  induction order generalizing record with
  | nil => cases member
  | cons first rest ih =>
      rw [attemptAll_cons] at failed ⊢
      by_cases same : position = first
      · subst same
        simp only [Function.update_self] at failed
        obtain ⟨calls, step⟩ := attemptAll_continues world token setting quad rest
          (attempt (world.recorded token) setting quad position record).2
        exact lasting _ _ calls step (attempt_seen failed)
      · simp only [Function.update_of_ne same] at failed
        exact ih (List.mem_of_ne_of_mem same member) failed

/-- Only a position that has been cancelled makes the key of a quad cancelled. -/
theorem assembleAll_eq_cancelled {answers : Position → Except NormalizationError ObjectId}
    (cancelled : assembleAll answers = .error .cancelled) :
    ∃ position, answers position = .error .cancelled := by
  by_contra missing
  have plain : ∀ position cause, answers position = .error cause → cause ≠ .cancelled := by
    rintro position cause failed rfl
    exact missing ⟨position, failed⟩
  rcases assembleAll_cases plain with ⟨key, _, assembled⟩ | ⟨position, cause, _, failed⟩
  · rw [assembled] at cancelled
    cases cancelled
  · rw [failed] at cancelled
    cases cancelled

theorem store_seen {key : Key} {record : Record σ}
    (failed : (store (world.recorded token) key record).1 = .error .cancelled) :
    token (store (world.recorded token) key record).2 = true := by
  cases seen : (world.recorded token).isCancelled record with
  | true =>
      rw [store_cancelled _ key seen]
      exact seen
  | false =>
      rw [store_indexed _ key seen] at failed
      cases answer : ((world.recorded token).index key record).1 with
      | error cause =>
          rw [answer] at failed
          cases failed
      | ok _ =>
          rw [answer] at failed
          cases failed

/-- A quad is reported as cancelled only under a token that is cancelled by then. -/
theorem insertQuad_seen (lasting : Record.Lasting world token) {record : Record σ}
    (failed : (insertQuad (world.recorded token) setting quad record).1 = .error .cancelled) :
    token (insertQuad (world.recorded token) setting quad record).2 = true := by
  rw [← insertInOrder_all, insertInOrder_eq_next] at failed ⊢
  cases attempts : attemptAll (world.recorded token) setting quad Position.all record with
  | mk answers middle =>
      rw [attempts] at failed
      cases assembled : assembleAll answers with
      | ok key =>
          rw [assembled] at failed
          exact store_seen failed
      | error cause =>
          rw [assembled] at failed
          cases failed
          obtain ⟨position, cancelled⟩ := assembleAll_eq_cancelled assembled
          have member : position ∈ Position.all := by
            cases position <;> simp [Position.all]
          have here : (attemptAll (world.recorded token) setting quad Position.all record).1
              position = .error .cancelled := by
            rw [attempts]
            exact cancelled
          have seen := attemptAll_seen lasting member here
          rw [attempts] at seen
          exact seen

/-! ## Where the cause of a quad comes from -/

/-- The cause for which a quad could not be inserted, with what is to be told of it by name: the
failure that a term of the quad has in every state, or the answer of the backend to the last call,
made for the entries of the quad. -/
inductive Caused (world : World σ) (setting : Setting) (state : σ) (final : Record σ)
    (quad : Quad) : InsertionError → Option NormalizationError → Option StorageError → Prop
  | term {position : Position} {cause : NormalizationError} {term : Term}
      (placed : quad.term? position = some term) (fails : term.Fails setting cause)
      (answers : ∀ (other : World σ) (state : σ),
        normalize other setting term state = (.error cause, state)) :
      Caused world setting state final quad (.normalization position cause) (some cause) none
  | backend {cause : StorageError} {statement : Statement} {key : Key} {front : List Call}
      {middle : σ} (means : quad.statement setting = .ok statement) (fits : statement.Fits key)
      (calls : final.calls = front ++ statement.registrations key ++ [.index key (.error cause)])
      (makes : world.Makes state (front ++ statement.registrations key) middle)
      (answers : world.index key middle = (.error cause, final.state)) :
      Caused world setting state final quad (.backend cause) none (some cause)

/-- A quad that fails is reported as cancelled, or with the cause that it has. -/
theorem insertQuad_caused {state : σ} {record final : Record σ} {cause : InsertionError}
    (reached : (Record.start state).Continues world record record.calls)
    (failed : insertQuad (world.recorded token) setting quad record = (.error cause, final)) :
    cause = .cancelled ∨ ∀ unit place, Caused world setting state final quad cause
      (ExecutionError.quadInsertion unit place cause).normalizationError?
      (ExecutionError.quadInsertion unit place cause).storageError? := by
  obtain ⟨calls, step, attempt⟩ := insertQuad_attempt world token setting quad record
  rw [failed] at step attempt
  cases attempt with
  | cancelled _ _ => exact Or.inl rfl
  | @refused key _ cause keyed =>
      right
      intro unit place
      cases keyed with
      | resolved means fits =>
          -- The last call has the answer that is reported, and all others come before it.
          have whole := reached.trans step
          rw [← List.append_assoc] at whole
          obtain ⟨middle, before, last⟩ := whole.makes.of_append
          exact .backend means fits whole.calls_of_start before last.of_single
  | failed keyed =>
      cases keyed with
      | cancelled _ _ => exact Or.inl rfl
      | unresolved means _ =>
          right
          intro unit place
          obtain ⟨term, placed, unknown⟩ := Quad.entry_of_statement_error means
          exact .term placed (Term.fails_of_entry unknown) fun other state =>
            normalize_unknown other setting state unknown

end Insertion

/-! ## Failures of requests -/

namespace Update

open Insertion (Caused)

/-- What a failure tells, of the request that has been executed if there is one. -/
structure Classified (world : World σ) (token : Record σ → Bool) (literals : LiteralOptions)
    (operationOf : υ → Except ParseError Operation) (tree? : Option (RequestTree υ)) (state : σ)
    (error : ExecutionError) (final : Record σ) : Prop where
  cancelled : error.isCancelled = true → token final = true
  unwrapped : error.TellsCancellation → error.isCancelled = true
  caused : ∀ unit place cause, error = .quadInsertion unit place cause →
    ∃ tree quad, tree? = some tree ∧ HasQuad operationOf tree.units unit place quad ∧
      Caused world ⟨literals, .ofPrologue tree.prologue⟩ state final quad cause
        error.normalizationError? error.storageError?
  causeless : (∀ unit place cause, error ≠ .quadInsertion unit place cause) →
    error.normalizationError? = none ∧ error.storageError? = none

section Failures

variable {world : World σ} {token : Record σ → Bool} {literals : LiteralOptions}
  {operationOf : υ → Except ParseError Operation} {tree? : Option (RequestTree υ)} {state : σ}
  {error : ExecutionError} {final : Record σ}

/-- A failure that is about no quad has no cause of one. -/
theorem classified_of_other
    (other : ∀ unit place cause, error ≠ .quadInsertion unit place cause)
    (seen : error = .cancelled → token final = true) :
    Classified world token literals operationOf tree? state error final := by
  constructor
  · intro cancelled
    exact seen (beq_iff_eq.mp cancelled)
  · intro tells
    cases tells with
    | plain => rfl
    | quad unit place => exact absurd rfl (other unit place _)
    | term unit place position => exact absurd rfl (other unit place _)
  · intro unit place cause same
    exact absurd same (other unit place cause)
  · intro _
    cases error with
    | quadInsertion unit place cause => exact absurd rfl (other unit place cause)
    | _ => exact ⟨rfl, rfl⟩

theorem classified_of_caused {tree : RequestTree υ} {quad : Quad} {unit place : Nat}
    {cause : InsertionError} (there : HasQuad operationOf tree.units unit place quad)
    (caused : Caused world ⟨literals, .ofPrologue tree.prologue⟩ state final quad cause
      (ExecutionError.quadInsertion unit place cause).normalizationError?
      (ExecutionError.quadInsertion unit place cause).storageError?) :
    Classified world token literals operationOf (some tree) state
      (.quadInsertion unit place cause) final := by
  constructor
  · intro cancelled
    cases cancelled
  · intro tells
    cases tells with
    | quad _ _ => cases caused
    | term _ _ position =>
        cases caused with
        | term placed fails answers => exact absurd rfl fails.ne_cancelled
  · rintro unit' place' cause' ⟨⟩
    exact ⟨tree, quad, rfl, there, caused⟩
  · intro other
    exact absurd rfl (other unit place cause)

end Failures

section Executions

variable {world : World σ} {token : Record σ → Bool} {literals : LiteralOptions}
  {operationOf : υ → Except ParseError Operation} {tree : RequestTree υ} {state : σ}
  {error : ExecutionError} {final : Record σ}

theorem execute_classified (lasting : Record.Lasting world token)
    (failed : execute (world.recorded token) literals operationOf tree (.start state) =
      (.error error, final)) :
    Classified world token literals operationOf (some tree) state error final := by
  obtain ⟨before, unit, behind, reached, middle, split, front, here⟩ := executeUnits_stops failed
  rw [Nat.zero_add] at here
  obtain ⟨calls, step⟩ := executeUnits_continues world token
    ⟨literals, .ofPrologue tree.prologue⟩ operationOf 0 .zero before (.start state)
  rw [front] at step
  cases live : (world.recorded token).isCancelled middle with
  | true =>
      rw [executeUnit_cancelled _ _ _ _ live] at here
      cases here
      exact classified_of_other (by simp) fun _ => live
  | false =>
      rcases executeUnit_stops live here with
        ⟨cause, unreadable, rfl, rfl⟩ | ⟨operation, read, other, rfl, rfl⟩ |
        ⟨done, last, rest, cause, next, read, rfl, inside, refused⟩
      · exact classified_of_other (by simp) (by simp)
      · exact classified_of_other (by simp) (by simp)
      · obtain ⟨calls', step'⟩ := insertQuads_continues world token
          ⟨literals, .ofPrologue tree.prologue⟩ before.length 0 done middle
        rw [inside] at step'
        have arrived : (Record.start state).Continues world next next.calls := by
          have both := step.trans step'
          rw [both.calls_of_start]
          exact both
        rcases Insertion.insertQuad_caused arrived refused with rfl | caused
        · have seen := Insertion.insertQuad_seen lasting (congrArg Prod.fst refused)
          rw [refused] at seen
          exact classified_of_other (by simp [failure]) fun _ => seen
        · have place : failure before.length done.length cause =
              .quadInsertion before.length done.length cause := by
            cases cause with
            | cancelled => cases caused 0 0
            | _ => rfl
          rw [place]
          exact classified_of_caused (hasQuad_of_split split read) (caused _ _)

end Executions

end Update

namespace Dispatch

open Update (Classified HasQuad)
open Insertion (Caused)

theorem Refused.ne_quadInsertion {reading : Except ParseError (RequestTree υ)}
    {error : ExecutionError} (refused : Refused reading error) (unit place : Nat)
    (cause : InsertionError) : error ≠ .quadInsertion unit place cause := by
  cases refused <;> simp

theorem Refused.ne_cancelled {reading : Except ParseError (RequestTree υ)}
    {error : ExecutionError} (refused : Refused reading error) : error ≠ .cancelled := by
  cases refused <;> simp

theorem update_classified {world : World σ} {token : Record σ → Bool} {literals : LiteralOptions}
    {reader : RequestReader υ} {text : String} {state : σ} {error : ExecutionError}
    {final : Record σ} (lasting : Record.Lasting world token)
    (failed : update (world.recorded token) literals reader text (.start state) =
      (.error error, final)) :
    Classified world token literals reader.operation (reader.update? text) state error final := by
  rcases update_cases literals reader text with
    ⟨tree, read, executed⟩ | ⟨_, cause, why, refused⟩
  · rw [executed] at failed
    rw [read]
    exact Update.execute_classified lasting failed
  · rw [refused] at failed
    cases failed
    exact Update.classified_of_other why.ne_quadInsertion fun same =>
      absurd same why.ne_cancelled

/-- Whatever fails, be it a tree that is executed or a text that comes in, is told in the same way.
A cancellation is plain and under a cancelled token; the failure of a quad names a quad of the
request and has one cause, that of its term or the backend's own; any other failure has none. -/
theorem failures_classified (world : World σ) (token : Record σ → Bool)
    (lasting : Record.Lasting world token) (literals : LiteralOptions) (reader : RequestReader υ)
    (state : σ) :
    (∀ tree error final,
        Update.execute (world.recorded token) literals reader.operation tree (.start state) =
            (.error error, final) →
          Classified world token literals reader.operation (some tree) state error final) ∧
      ∀ text error final,
        update (world.recorded token) literals reader text (.start state) =
            (.error error, final) →
          Classified world token literals reader.operation (reader.update? text) state error
            final := by
  constructor
  · intro tree error final failed
    exact Update.execute_classified lasting failed
  · intro text error final failed
    exact update_classified lasting failed

/-- The last of three quads has a subject under a label that is not declared. -/
def undeclaredLast : RequestReader Operation where
  tree _ := .ok (.update {}
    [.insertData [⟨.uri (.absolute "http://s"), .uri (.absolute "http://p"),
        .uri (.absolute "http://o"), none⟩],
      .insertData
        [⟨.uri (.absolute "http://s"), .uri (.absolute "http://p"),
            .literal ⟨"v", some "en", none⟩, none⟩,
          ⟨.uri (.prefixed "x" "s"), .uri (.absolute "http://p"), .uri (.absolute "http://o"),
            none⟩]])
  operation := .ok

/-- The request fails at its last quad, or is cancelled after the four calls of its first unit. -/
theorem failures_classified_undeclaredLast :
    let run (limit : Nat) := update ((Memory.world false).recorded (Record.after limit)) {}
      undeclaredLast "" (.start .empty)
    (∀ limit, Record.Lasting (Memory.world false) (Record.after limit)) ∧
      (run 100).1 =
        .error (.quadInsertion 1 1 (.normalization .subject (.unresolvedPrefix "x"))) ∧
      (∃ tree quad, undeclaredLast.update? "" = some tree ∧
        HasQuad undeclaredLast.operation tree.units 1 1 quad ∧
        Caused (Memory.world false) ⟨{}, .ofPrologue tree.prologue⟩ .empty (run 100).2 quad
          (.normalization .subject (.unresolvedPrefix "x")) (some (.unresolvedPrefix "x")) none) ∧
      (run 4).1 = .error .cancelled ∧ Record.after 4 (run 4).2 = true := by
  intro run
  have lasting (limit : Nat) := Record.after_lasting (Memory.world false) limit
  have unresolved : (run 100).1 =
      .error (.quadInsertion 1 1 (.normalization .subject (.unresolvedPrefix "x"))) := by
    decide +kernel
  have cancelled : (run 4).1 = .error .cancelled := by
    decide +kernel
  have late := (failures_classified (Memory.world false) (Record.after 100) (lasting 100) {}
    undeclaredLast .empty).2 "" _ _ (Prod.ext unresolved rfl)
  have early := (failures_classified (Memory.world false) (Record.after 4) (lasting 4) {}
    undeclaredLast .empty).2 "" _ _ (Prod.ext cancelled rfl)
  exact ⟨lasting, unresolved, late.caused 1 1 _ rfl, cancelled, early.cancelled rfl⟩

end Dispatch

end RdfDataset
