import Mathlib.Data.List.Basic
import Mathlib.Logic.Function.Basic
import RdfDataset.Memory
import RdfDataset.Proofs.Execution.Attempt

/-!
# Insertion position by position

A quad is looked at as four positions, each of which is settled on its own: a missing graph needs
nothing, a term that resolves is registered once, any other term fails without a call. The positions
are attempted one after the other in some order; the insertion of a quad is the case of the order
graph, subject, predicate, object. What the backend is asked, and what is answered, follows from how
the positions have been settled.
-/

set_option autoImplicit false

namespace RdfDataset

/-- The positions in the order in which their terms are looked at and their failures reported. -/
def Position.all : List Position := [.graph, .subject, .predicate, .object]

/-- Only the graph may be missing. -/
def Quad.term? (quad : Quad) : Position → Option Term
  | .graph => quad.graph
  | .subject => some quad.subject
  | .predicate => some quad.predicate
  | .object => some quad.object

/-- A quad without a statement has a term without an entry at the position that is reported. -/
theorem Quad.entry_of_statement_error {setting : Setting} {quad : Quad} {position : Position}
    {cause : NormalizationError}
    (failed : quad.statement setting = .error (.normalization position cause)) :
    ∃ term, quad.term? position = some term ∧ setting.entry term = .error cause := by
  have here (position' : Position) {cause' : NormalizationError} {term : Term}
      (placed : quad.term? position' = some term) (unknown : setting.entry term = .error cause')
      (same : InsertionError.atPosition position' cause' = .normalization position cause) :
      ∃ term, quad.term? position = some term ∧ setting.entry term = .error cause := by
    cases cause' with
    | cancelled => exact absurd unknown (setting.entry_ne_cancelled term)
    | _ =>
        cases same
        exact ⟨term, placed, unknown⟩
  unfold Quad.statement at failed
  cases graph : setting.graphEntry quad.graph with
  | error cause' =>
      rw [graph] at failed
      cases named : quad.graph with
      | none =>
          rw [named] at graph
          cases graph
      | some term =>
          cases unknown : setting.entry term with
          | ok entry =>
              rw [named, Setting.graphEntry, unknown] at graph
              cases graph
          | error cause'' =>
              rw [named, Setting.graphEntry, unknown] at graph
              cases graph
              exact here .graph named unknown (Except.error.inj failed)
  | ok _ =>
      cases subject : setting.entry quad.subject with
      | error cause' =>
          rw [graph, subject] at failed
          exact here .subject rfl subject (Except.error.inj failed)
      | ok _ =>
          cases predicate : setting.entry quad.predicate with
          | error cause' =>
              rw [graph, subject, predicate] at failed
              exact here .predicate rfl predicate (Except.error.inj failed)
          | ok _ =>
              cases object : setting.entry quad.object with
              | error cause' =>
                  rw [graph, subject, predicate, object] at failed
                  exact here .object rfl object (Except.error.inj failed)
              | ok _ =>
                  rw [graph, subject, predicate, object] at failed
                  cases failed

/-! ## Terms that resolve -/

namespace Term

variable (setting : Setting)

/-- The term stands for the entry. -/
inductive Resolves : Term → Entry → Prop
  | absolute (text : String) : Resolves (.uri (.absolute text)) (.uri text)
  | declared {label suffix space : String}
      (known : setting.namespaces.resolve? label = some space) :
      Resolves (.uri (.prefixed label suffix)) (.uri (space ++ suffix))
  | literal {literal : Literal} {text : String}
      (canonical : literal.canonical setting.literals setting.namespaces = .ok text) :
      Resolves (.literal literal) (.literal text)

inductive Fails : Term → NormalizationError → Prop
  | undeclared {label suffix : String} (unknown : setting.namespaces.resolve? label = none) :
      Fails (.uri (.prefixed label suffix)) (.unresolvedPrefix label)
  | literal {literal : Literal} {cause : NormalizationError}
      (failed : literal.canonical setting.literals setting.namespaces = .error cause) :
      Fails (.literal literal) cause
  | blankNode (label : String) : Fails (.blankNode label) (.unsupportedTermKind "blanknode")

variable {setting} {term : Term}

theorem resolves_of_entry {entry : Entry} (known : setting.entry term = .ok entry) :
    term.Resolves setting entry := by
  unfold Setting.entry Term.entry at known
  split at known
  · cases known
    exact .absolute _
  · split at known
    · next declared =>
        cases known
        exact .declared declared
    · cases known
  · next literal =>
      cases text : literal.canonical setting.literals setting.namespaces with
      | error cause => simp [text, Except.map] at known
      | ok text' =>
          rw [text] at known
          cases known
          exact .literal text
  · cases known

theorem fails_of_entry {cause : NormalizationError} (unknown : setting.entry term = .error cause) :
    term.Fails setting cause := by
  unfold Setting.entry Term.entry at unknown
  split at unknown
  · cases unknown
  · split at unknown
    · cases unknown
    · next undeclared =>
        cases unknown
        exact .undeclared undeclared
  · next literal =>
      cases text : literal.canonical setting.literals setting.namespaces with
      | ok text' => simp [text, Except.map] at unknown
      | error cause' =>
          rw [text] at unknown
          cases unknown
          exact .literal text
  · cases unknown
    exact .blankNode _

/-- A term never fails for a cancellation. -/
theorem Fails.ne_cancelled {cause : NormalizationError} (fails : term.Fails setting cause) :
    cause ≠ .cancelled := by
  rintro rfl
  cases fails with
  | literal failed =>
      obtain ⟨label, unresolved⟩ := Literal.canonical_eq_error failed
      cases unresolved

end Term

namespace Insertion

variable {σ : Type}

/-! ## Attempts in some order -/

section Attempts

variable (world : World σ) (setting : Setting) (quad : Quad)

def attempt (position : Position) (state : σ) : Except NormalizationError ObjectId × σ :=
  normalizeGraph world setting (quad.term? position) state

/-- The positions are attempted one after the other. What is not attempted has no id. -/
def attemptAll : List Position → σ → (Position → Except NormalizationError ObjectId) × σ
  | [], state => (fun _ => .error .cancelled, state)
  | position :: rest, state =>
    let (answer, state) := attempt world setting quad position state
    let (answers, state) := attemptAll rest state
    (Function.update answers position answer, state)

def assembleAll (answers : Position → Except NormalizationError ObjectId) :
    Except InsertionError Key :=
  assemble (answers .graph) (answers .subject) (answers .predicate) (answers .object)

/-- The insertion of a quad whose positions are attempted in this order. -/
def insertInOrder (order : List Position) (state : σ) : Except InsertionError Key × σ :=
  let (answers, state) := attemptAll world setting quad order state
  Outcome.next id (store world) (assembleAll answers, state)

theorem attemptAll_cons (position : Position) (rest : List Position) (state : σ) :
    attemptAll world setting quad (position :: rest) state =
      (Function.update
          (attemptAll world setting quad rest (attempt world setting quad position state).2).1
          position (attempt world setting quad position state).1,
        (attemptAll world setting quad rest (attempt world setting quad position state).2).2) :=
  rfl

theorem attemptAll_here (position : Position) (rest : List Position) (state : σ) :
    (attemptAll world setting quad (position :: rest) state).1 position =
      (attempt world setting quad position state).1 :=
  Function.update_self ..

theorem attemptAll_later {position other : Position} {rest : List Position}
    (new : position ∉ rest) (member : other ∈ rest) (state : σ) :
    (attemptAll world setting quad (position :: rest) state).1 other =
      (attemptAll world setting quad rest (attempt world setting quad position state).2).1
        other :=
  Function.update_of_ne (ne_of_mem_of_not_mem member new) ..

theorem insertInOrder_eq_next (order : List Position) (state : σ) :
    insertInOrder world setting quad order state =
      Outcome.next id (store world)
        (assembleAll (attemptAll world setting quad order state).1,
          (attemptAll world setting quad order state).2) :=
  rfl

theorem insertInOrder_all (state : σ) :
    insertInOrder world setting quad Position.all state = insertQuad world setting quad state := by
  rw [insertQuad_eq_next]
  rfl

end Attempts

/-! ## Tokens that are not cancelled meanwhile -/

section Live

variable {world : World σ} {token : Record σ → Bool} {setting : Setting} {quad : Quad}

/-- No record between the two is one on which the token is cancelled. -/
def LiveBetween (world : World σ) (token : Record σ → Bool) (before after : Record σ) : Prop :=
  ∀ middle, (∃ calls, before.Continues world middle calls) →
    (∃ calls, middle.Continues world after calls) → token middle = false

theorem LiveBetween.start {before after : Record σ} (live : LiveBetween world token before after)
    (ahead : ∃ calls, before.Continues world after calls) : token before = false :=
  live before ⟨[], .refl before⟩ ahead

theorem LiveBetween.later {before middle after : Record σ}
    (live : LiveBetween world token before after)
    (reached : ∃ calls, before.Continues world middle calls) :
    LiveBetween world token middle after := by
  intro other start ahead
  obtain ⟨calls, first⟩ := reached
  obtain ⟨more, second⟩ := start
  exact live other ⟨calls ++ more, first.trans second⟩ ahead

/-- A token that is cancelled by a later call is live until then. -/
theorem liveBetween_after {limit : Nat} (before : Record σ) {after : Record σ}
    (early : after.calls.length < limit) : LiveBetween world (Record.after limit) before after := by
  rintro middle _ ⟨calls, step⟩
  have length := congrArg List.length step.calls_eq
  rw [List.length_append] at length
  have few : ¬ limit ≤ middle.calls.length := by
    omega
  simp [Record.after, few]

variable (world token setting quad)

theorem attempt_continues (position : Position) (record : Record σ) :
    ∃ calls, record.Continues world
      (attempt (world.recorded token) setting quad position record).2 calls := by
  obtain ⟨calls, step, _⟩ :=
    normalizeGraph_normalized world token setting (quad.term? position) record
  exact ⟨calls, step⟩

theorem attemptAll_continues (order : List Position) (record : Record σ) :
    ∃ calls, record.Continues world
      (attemptAll (world.recorded token) setting quad order record).2 calls := by
  induction order generalizing record with
  | nil => exact ⟨[], .refl record⟩
  | cons position rest ih =>
      obtain ⟨calls, step⟩ := attempt_continues world token setting quad position record
      obtain ⟨more, step'⟩ := ih (attempt (world.recorded token) setting quad position record).2
      exact ⟨calls ++ more, step.trans step'⟩

variable {world token}

theorem attempt_live (position : Position) {record : Record σ} (live : token record = false) :
    attempt (world.recorded token) setting quad position record =
      attempt (world.recorded Record.never) setting quad position record := by
  unfold attempt
  cases quad.term? position with
  | none => rfl
  | some term =>
      cases known : setting.entry term with
      | error cause =>
          rw [normalizeGraph, normalizeGraph, normalize_unknown _ setting record known,
            normalize_unknown _ setting record known]
      | ok entry =>
          rw [normalizeGraph, normalizeGraph,
            normalize_registered (world.recorded token) setting known live,
            normalize_registered (world.recorded Record.never) setting known rfl]
          rfl

theorem attemptAll_live (order : List Position) {record after : Record σ}
    (live : LiveBetween world token record after)
    (ahead : ∃ calls, (attemptAll (world.recorded token) setting quad order record).2.Continues
      world after calls) :
    attemptAll (world.recorded token) setting quad order record =
      attemptAll (world.recorded Record.never) setting quad order record := by
  induction order generalizing record with
  | nil => rfl
  | cons position rest ih =>
      obtain ⟨calls, first⟩ := attempt_continues world token setting quad position record
      obtain ⟨more, second⟩ := attemptAll_continues world token setting quad rest
        (attempt (world.recorded token) setting quad position record).2
      obtain ⟨others, third⟩ := ahead
      have here := live.start ⟨_, first.trans (second.trans third)⟩
      have later := ih (live.later ⟨calls, first⟩) ⟨others, third⟩
      rw [attemptAll_cons, attemptAll_cons, later, attempt_live setting quad position here]

theorem insertInOrder_live (order : List Position) {record : Record σ}
    (live : LiveBetween world token record
      (insertInOrder (world.recorded token) setting quad order record).2) :
    insertInOrder (world.recorded token) setting quad order record =
      insertInOrder (world.recorded Record.never) setting quad order record := by
  rw [insertInOrder_eq_next] at live
  rw [insertInOrder_eq_next, insertInOrder_eq_next]
  have reached := attemptAll_continues world token setting quad order record
  cases attempts : attemptAll (world.recorded token) setting quad order record with
  | mk answers middle =>
      rw [attempts] at live reached
      have ahead : ∃ calls, middle.Continues world (Outcome.next id
          (store (world.recorded token)) (assembleAll answers, middle)).2 calls :=
        Outcome.next_continues ⟨[], .refl middle⟩ fun key later =>
          store_continues world token key later
      have same := attemptAll_live setting quad order live (by rw [attempts]; exact ahead)
      rw [← same, attempts]
      cases assembled : assembleAll answers with
      | error cause => rfl
      | ok key =>
          rw [assembled] at live ahead
          have here := (live.later reached).start ahead
          rw [Outcome.next, Outcome.next, store_indexed (world.recorded token) key here,
            store_indexed (world.recorded Record.never) key rfl]
          rfl

end Live

/-! ## How positions are settled -/

section Settled

variable (setting : Setting)

/-- What becomes of a position, and the calls made for it. -/
inductive Settled : Option Term → Except NormalizationError ObjectId → List Call → Prop
  | missing : Settled none (.ok ObjectId.defaultGraph) []
  | resolved {term : Term} {entry : Entry} {id : ObjectId}
      (resolves : term.Resolves setting entry) :
      Settled (some term) (.ok id) [.register entry id]
  | failed {term : Term} {cause : NormalizationError} (fails : term.Fails setting cause) :
      Settled (some term) (.error cause) []

variable {setting}

theorem settled_of_normalized {σ : Type} {term? : Option Term}
    {answer : Except NormalizationError ObjectId} {calls : List Call}
    (normalized : NormalizedGraph (σ := σ) Record.never setting term? answer calls) :
    Settled setting term? answer calls := by
  cases normalized with
  | missing => exact .missing
  | named normalized =>
      cases normalized with
      | registered known => exact .resolved (Term.resolves_of_entry known)
      | unknown unknown => exact .failed (Term.fails_of_entry unknown)
      | cancelled seen => cases seen

theorem Settled.ne_cancelled {term? : Option Term} {cause : NormalizationError} {calls : List Call}
    (settled : Settled setting term? (.error cause) calls) : cause ≠ .cancelled := by
  cases settled with
  | failed fails => exact fails.ne_cancelled

variable (world : World σ) (setting) (quad : Quad)

theorem attemptAll_settled {order : List Position} (nodup : order.Nodup) (record : Record σ) :
    ∃ calls : Position → List Call,
      record.Continues world
        (attemptAll (world.recorded Record.never) setting quad order record).2
        (order.flatMap calls) ∧
      ∀ position ∈ order, Settled setting (quad.term? position)
        ((attemptAll (world.recorded Record.never) setting quad order record).1 position)
        (calls position) := by
  induction order generalizing record with
  | nil => exact ⟨fun _ => [], .refl record, fun _ member => nomatch member⟩
  | cons position rest ih =>
      obtain ⟨new, nodup⟩ := List.nodup_cons.mp nodup
      obtain ⟨first, step, normalized⟩ :=
        normalizeGraph_normalized world Record.never setting (quad.term? position) record
      obtain ⟨calls, step', settled⟩ := ih nodup
        (attempt (world.recorded Record.never) setting quad position record).2
      refine ⟨Function.update calls position first, ?_, ?_⟩
      · have others : ∀ other ∈ rest, Function.update calls position first other = calls other := by
          intro other member
          exact Function.update_of_ne (ne_of_mem_of_not_mem member new) first calls
        rw [List.flatMap_cons, Function.update_self, List.flatMap_congr others]
        exact step.trans step'
      · intro other member
        rcases List.mem_cons.mp member with rfl | later
        · rw [attemptAll_here, Function.update_self]
          exact settled_of_normalized normalized
        · rw [attemptAll_later _ _ _ new later,
            Function.update_of_ne (ne_of_mem_of_not_mem later new)]
          exact settled other later

end Settled

/-! ## What follows from the answers -/

/-- The key has the ids of the positions. -/
structure Assembles (answers : Position → Except NormalizationError ObjectId) (key : Key) :
    Prop where
  graph : answers .graph = .ok key.graph
  subject : answers .subject = .ok key.subject
  predicate : answers .predicate = .ok key.predicate
  object : answers .object = .ok key.object

/-- The positions fail, this one being the first. -/
structure FailsFirst (answers : Position → Except NormalizationError ObjectId)
    (position : Position) (cause : NormalizationError) : Prop where
  here : answers position = .error cause
  before : ∃ front behind, Position.all = front ++ position :: behind ∧
    ∀ earlier ∈ front, ∃ id, answers earlier = .ok id

/-- What becomes of a quad, and the calls made after its positions have been settled. -/
inductive Concluded (answers : Position → Except NormalizationError ObjectId) :
    Except InsertionError Key → List Call → Prop
  | inserted {key : Key} (assembles : Assembles answers key) :
      Concluded answers (.ok key) [.index key (.ok ())]
  | refused {key : Key} {cause : StorageError} (assembles : Assembles answers key) :
      Concluded answers (.error (.backend cause)) [.index key (.error cause)]
  | failed {position : Position} {cause : NormalizationError}
      (fails : FailsFirst answers position cause) :
      Concluded answers (.error (.normalization position cause)) []

section Concluded

variable {answers : Position → Except NormalizationError ObjectId}

theorem assembleAll_of_ids {key : Key} (assembles : Assembles answers key) :
    assembleAll answers = .ok key := by
  rw [assembleAll, assembles.graph, assembles.subject, assembles.predicate, assembles.object]
  rfl

theorem atPosition_eq {position : Position} {cause : NormalizationError}
    (plain : cause ≠ .cancelled) :
    InsertionError.atPosition position cause = .normalization position cause := by
  cases cause with
  | cancelled => exact absurd rfl plain
  | _ => rfl

/-- Either all positions have ids, or one of them is the first to fail. -/
theorem assembleAll_cases
    (plain : ∀ position cause, answers position = .error cause → cause ≠ .cancelled) :
    (∃ key, Assembles answers key ∧ assembleAll answers = .ok key) ∨
      ∃ position cause, FailsFirst answers position cause ∧
        assembleAll answers = .error (.normalization position cause) := by
  cases graph : answers .graph with
  | error cause =>
      refine Or.inr ⟨.graph, cause, ⟨graph, [], _, rfl, fun _ member => nomatch member⟩, ?_⟩
      rw [assembleAll, graph, ← atPosition_eq (plain _ _ graph)]
      rfl
  | ok graphId =>
      cases subject : answers .subject with
      | error cause =>
          refine Or.inr ⟨.subject, cause, ⟨subject, [.graph], _, rfl, ?_⟩, ?_⟩
          · simp [graph]
          · rw [assembleAll, graph, subject, ← atPosition_eq (plain _ _ subject)]
            rfl
      | ok subjectId =>
          cases predicate : answers .predicate with
          | error cause =>
              refine Or.inr ⟨.predicate, cause, ⟨predicate, [.graph, .subject], _, rfl, ?_⟩, ?_⟩
              · simp [graph, subject]
              · rw [assembleAll, graph, subject, predicate,
                  ← atPosition_eq (plain _ _ predicate)]
                rfl
          | ok predicateId =>
              cases object : answers .object with
              | error cause =>
                  refine Or.inr ⟨.object, cause,
                    ⟨object, [.graph, .subject, .predicate], _, rfl, ?_⟩, ?_⟩
                  · simp [graph, subject, predicate]
                  · rw [assembleAll, graph, subject, predicate, object,
                      ← atPosition_eq (plain _ _ object)]
                    rfl
              | ok objectId =>
                  have assembles : Assembles answers
                      ⟨subjectId, predicateId, objectId, graphId⟩ :=
                    ⟨graph, subject, predicate, object⟩
                  exact Or.inl ⟨_, assembles, assembleAll_of_ids assembles⟩

theorem next_store_concluded (world : World σ) (record : Record σ)
    (plain : ∀ position cause, answers position = .error cause → cause ≠ .cancelled) :
    ∃ last,
      record.Continues world (Outcome.next id (store (world.recorded Record.never))
        (assembleAll answers, record)).2 last ∧
      Concluded answers (Outcome.next id (store (world.recorded Record.never))
        (assembleAll answers, record)).1 last := by
  rcases assembleAll_cases plain with ⟨key, assembles, ok⟩ | ⟨position, cause, fails, failed⟩
  · rw [ok, Outcome.next, store_indexed (world.recorded Record.never) key rfl]
    refine ⟨_, .index Record.never key record, ?_⟩
    cases ((world.recorded Record.never).index key record).1 with
    | ok _ => exact .inserted assembles
    | error cause => exact .refused assembles
  · rw [failed]
    exact ⟨[], .refl record, .failed fails⟩

end Concluded

/-- The insertion of a quad under a token that is not cancelled meanwhile: every position is settled
on its own, in the order graph, subject, predicate, object and whatever becomes of the others, and
the backend is asked last, exactly if all of them have ids. -/
theorem insertQuad_settled (world : World σ) (token : Record σ → Bool) (setting : Setting)
    (quad : Quad) (record : Record σ)
    (live : LiveBetween world token record
      (insertQuad (world.recorded token) setting quad record).2) :
    ∃ (answers : Position → Except NormalizationError ObjectId) (calls : Position → List Call)
      (last : List Call),
      (∀ position, Settled setting (quad.term? position) (answers position) (calls position)) ∧
      record.Continues world (insertQuad (world.recorded token) setting quad record).2
        (Position.all.flatMap calls ++ last) ∧
      Concluded answers (insertQuad (world.recorded token) setting quad record).1 last := by
  rw [← insertInOrder_all] at live ⊢
  rw [insertInOrder_live setting quad Position.all live, insertInOrder_eq_next]
  have nodup : Position.all.Nodup := by
    decide
  obtain ⟨calls, step, settled⟩ := attemptAll_settled setting world quad nodup record
  cases attempts : attemptAll (world.recorded Record.never) setting quad Position.all record with
  | mk answers middle =>
      rw [attempts] at step settled
      have settled : ∀ position, Settled setting (quad.term? position) (answers position)
          (calls position) := by
        intro position
        apply settled
        cases position <;> decide
      have plain : ∀ position cause, answers position = .error cause → cause ≠ .cancelled := by
        intro position cause failed
        have here := settled position
        rw [failed] at here
        exact here.ne_cancelled
      obtain ⟨last, step', concluded⟩ := next_store_concluded world middle plain
      exact ⟨answers, calls, last, settled, step.trans step', concluded⟩

/-- The graph and the subject do not resolve, predicate and object do. -/
def halfResolved : Quad :=
  ⟨.blankNode "b", .uri (.absolute "http://p"), .literal ⟨"v", some "en", none⟩,
    some (.uri (.prefixed "x" "g"))⟩

/-- The token is cancelled by the third call, which is never made. -/
theorem halfResolved_live : LiveBetween (Memory.world false) (Record.after 3) (.start .empty)
    (insertQuad ((Memory.world false).recorded (Record.after 3)) ⟨{}, .empty⟩ halfResolved
      (.start .empty)).2 :=
  liveBetween_after _ (by decide +kernel)

theorem insertQuad_settled_halfResolved :
    LiveBetween (Memory.world false) (Record.after 3) (.start .empty)
        (insertQuad ((Memory.world false).recorded (Record.after 3)) ⟨{}, .empty⟩ halfResolved
          (.start .empty)).2 ∧
      (insertQuad ((Memory.world false).recorded (Record.after 3)) ⟨{}, .empty⟩ halfResolved
          (.start .empty)).1 = .error (.normalization .graph (.unresolvedPrefix "x")) ∧
      (insertQuad ((Memory.world false).recorded (Record.after 3)) ⟨{}, .empty⟩ halfResolved
          (.start .empty)).2.calls.map Call.registered? =
        [some (.uri "http://p"), some (.literal "v@en")] ∧
      ∃ answers last, Concluded answers
        (insertQuad ((Memory.world false).recorded (Record.after 3)) ⟨{}, .empty⟩ halfResolved
          (.start .empty)).1 last := by
  obtain ⟨answers, _, last, _, _, concluded⟩ := insertQuad_settled (Memory.world false)
    (Record.after 3) ⟨{}, .empty⟩ halfResolved (.start .empty) halfResolved_live
  exact ⟨halfResolved_live, by decide +kernel, by decide +kernel, answers, last, concluded⟩

end Insertion

end RdfDataset
