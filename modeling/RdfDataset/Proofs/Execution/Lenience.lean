import RdfDataset.Proofs.Execution.Agreement
import RdfDataset.Proofs.Execution.Effects
import RdfDataset.Proofs.Execution.Truncation
import RdfDataset.Proofs.Insertion

/-!
# Lenient and strict runs

The lenient policy gives an entry to some literals that the strict one refuses, and changes nothing
else. A lenient run is the strict run as long as the strict run does not fail at a term. Where it
does, the lenient run may register more entries and insert more, but it has asked the backend
everything that the strict run has asked.
-/

set_option autoImplicit false

namespace RdfDataset

/-! ## Terms -/

/-- The setting under a policy. -/
def Setting.under (source : LanguageSource) (namespaces : Namespaces) (policy : DatatypePolicy) :
    Setting :=
  ⟨⟨source, policy⟩, namespaces⟩

section Terms

variable {source : LanguageSource} {namespaces : Namespaces}

theorem Literal.canonical_lenient {literal : Literal} {text : String}
    (canonical : literal.canonical ⟨source, .strict⟩ namespaces = .ok text) :
    literal.canonical ⟨source, .lenient⟩ namespaces = .ok text := by
  obtain ⟨value, language, datatype⟩ := literal
  cases datatype with
  | none => exact canonical
  | some datatype =>
      cases datatype with
      | absolute _ => exact canonical
      | resolved _ => exact canonical
      | prefixed label suffix =>
          simp only [Literal.canonical, datatypeSpace] at canonical ⊢
          cases declared : namespaces.resolve? label with
          | none => simp [declared, Except.map] at canonical
          | some space => simpa only [declared] using canonical

theorem Literal.canonical_lenient_ne_error (literal : Literal) (cause : NormalizationError) :
    literal.canonical ⟨source, .lenient⟩ namespaces ≠ .error cause := by
  obtain ⟨value, language, datatype⟩ := literal
  intro failed
  cases datatype with
  | none =>
      simp only [Literal.canonical] at failed
      split at failed <;> cases failed
  | some datatype =>
      cases datatype with
      | absolute _ => cases failed
      | resolved _ => cases failed
      | prefixed label suffix =>
          simp only [Literal.canonical, datatypeSpace] at failed
          cases declared : namespaces.resolve? label <;> simp [declared, Except.map] at failed

/-- Whatever has an entry under the strict policy has the same one under the lenient policy. -/
theorem Setting.entry_lenient {term : Term} {entry : Entry}
    (known : (under source namespaces .strict).entry term = .ok entry) :
    (under source namespaces .lenient).entry term = .ok entry := by
  cases Term.resolves_of_entry known with
  | absolute text => rfl
  | declared declared => simpa [Setting.entry, Term.entry, under] using known
  | @literal literal text canonical =>
      have same : literal.canonical ⟨source, .lenient⟩ namespaces = .ok text :=
        Literal.canonical_lenient canonical
      simp only [Setting.entry, Term.entry, under, same]
      rfl

theorem Setting.graphEntry_lenient {graph : Option Term} {entry : Option Entry}
    (known : (under source namespaces .strict).graphEntry graph = .ok entry) :
    (under source namespaces .lenient).graphEntry graph = .ok entry := by
  cases graph with
  | none => exact known
  | some term =>
      cases here : (under source namespaces .strict).entry term with
      | error cause =>
          rw [Setting.graphEntry, here] at known
          cases known
      | ok entry' =>
          rw [Setting.graphEntry, here] at known
          rw [Setting.graphEntry, Setting.entry_lenient here]
          exact known

/-- Under the lenient policy a label without a namespace fails a name only. -/
theorem Setting.entry_lenient_unresolved {term : Term} {label : String}
    (failed : (under source namespaces .lenient).entry term = .error (.unresolvedPrefix label)) :
    ∃ suffix, term = .uri (.prefixed label suffix) := by
  cases Term.fails_of_entry failed with
  | @undeclared _ suffix _ => exact ⟨suffix, rfl⟩
  | literal refused => exact absurd refused (Literal.canonical_lenient_ne_error _ _)

theorem Quad.agree_lenient {quad : Quad} {statement : Statement}
    (means : quad.statement (.under source namespaces .strict) = .ok statement) :
    quad.Agree (.under source namespaces .strict) (.under source namespaces .lenient) quad := by
  obtain ⟨graph, subject, predicate, object⟩ := Quad.statement_eq_ok means
  exact
    { subject := subject.trans (Setting.entry_lenient subject).symm
      predicate := predicate.trans (Setting.entry_lenient predicate).symm
      object := object.trans (Setting.entry_lenient object).symm
      graph := graph.trans (Setting.graphEntry_lenient graph).symm }

end Terms

/-! ## Runs -/

section Runs

variable {σ ε δ α β : Type}

/-- What the backend has been asked, with its answers. -/
def Record.asked (record : Record σ) : List (Key × Except StorageError Unit) :=
  record.calls.filterMap Call.indexed?

theorem Record.Continues.asked_prefix {world : World σ} {before after : Record σ}
    {calls : List Call} (step : before.Continues world after calls) :
    before.asked <+: after.asked := by
  rw [Record.asked, Record.asked, step.calls_eq, List.filterMap_append]
  exact List.prefix_append _ _

/-- The second outcome is the first one, or goes beyond it where the first one is a failure that it
may go beyond. -/
inductive Outcome.Extends (beyond : ε → Prop) :
    Outcome (Record σ) ε α → Outcome (Record σ) ε α → Prop
  | same (outcome : Outcome (Record σ) ε α) : Extends beyond outcome outcome
  | further {cause : ε} {final : Record σ} {lenient : Outcome (Record σ) ε α}
      (allowed : beyond cause) (asked : final.asked <+: lenient.2.asked) :
      Extends beyond (.error cause, final) lenient

/-- Going on after a success keeps what has been gone beyond, since calls are only added. -/
theorem Outcome.Extends.next {world : World σ} {beyond : ε → Prop} {beyond' : δ → Prop}
    {wrap : ε → δ} (wrapped : ∀ cause, beyond cause → beyond' (wrap cause))
    {strict lenient : Outcome (Record σ) ε α}
    {continuation continuation' : α → Record σ → Outcome (Record σ) δ β}
    (first : Extends beyond strict lenient)
    (rest : ∀ answer record,
      Extends beyond' (continuation answer record) (continuation' answer record))
    (adds : ∀ answer (record : Record σ),
      ∃ calls, record.Continues world (continuation' answer record).2 calls) :
    Extends beyond' (strict.next wrap continuation) (lenient.next wrap continuation') := by
  cases first with
  | same =>
      obtain ⟨answer, record⟩ := strict
      cases answer with
      | error cause => exact .same _
      | ok answer => exact rest answer record
  | further allowed asked =>
      refine .further (wrapped _ allowed) (asked.trans ?_)
      obtain ⟨answer, record⟩ := lenient
      cases answer with
      | error cause => exact List.prefix_refl _
      | ok answer =>
          obtain ⟨_, step⟩ := adds answer record
          exact step.asked_prefix

theorem Outcome.Extends.asked_prefix {beyond : ε → Prop} {strict lenient : Outcome (Record σ) ε α}
    (extended : Extends beyond strict lenient) : strict.2.asked <+: lenient.2.asked := by
  cases extended with
  | same => exact List.prefix_refl _
  | further _ asked => exact asked

theorem Outcome.Extends.eq {beyond : ε → Prop} {strict lenient : Outcome (Record σ) ε α}
    (extended : Extends beyond strict lenient)
    (within : ∀ cause, strict.1 = .error cause → ¬ beyond cause) : lenient = strict := by
  cases extended with
  | same => rfl
  | further allowed _ => exact absurd allowed (within _ rfl)

end Runs

variable {σ υ : Type} (world : World σ) (source : LanguageSource) (namespaces : Namespaces)

/-- A quad that the strict policy does not refuse is the same quad under both. One that it refuses
asks the backend nothing there. -/
theorem Insertion.insertQuad_extends (quad : Quad) (record : Record σ) :
    Outcome.Extends IsNormalization
      (insertQuad (world.recorded Record.never) (.under source namespaces .strict) quad record)
      (insertQuad (world.recorded Record.never) (.under source namespaces .lenient) quad
        record) := by
  cases means : quad.statement (.under source namespaces .strict) with
  | ok statement =>
      rw [insertQuad_agree _ (Quad.agree_lenient means)]
      exact .same _
  | error failure =>
      obtain ⟨calls, step, attempt⟩ := insertQuad_attempt world Record.never
        (.under source namespaces .strict) quad record
      obtain ⟨more, step', _⟩ := insertQuad_attempt world Record.never
        (.under source namespaces .lenient) quad record
      have unresolved {key : Key} {calls : List Call}
          (keyed : Keyed (σ := σ) Record.never (.under source namespaces .strict) quad (.ok key)
            calls) : False := by
        cases keyed with
        | resolved means' _ =>
            rw [means] at means'
            cases means'
      cases outcome : insertQuad (world.recorded Record.never) (.under source namespaces .strict)
          quad record with
      | mk answer final =>
          rw [outcome] at step attempt
          cases attempt with
          | inserted keyed => exact (unresolved keyed).elim
          | refused keyed => exact (unresolved keyed).elim
          | cancelled keyed _ => exact (unresolved keyed).elim
          | failed keyed =>
              cases keyed with
              | cancelled seen _ => cases seen
              | unresolved _ registers =>
                  have same : final.asked = record.asked := by
                    rw [Record.asked, Record.asked, step.calls_eq, List.filterMap_append,
                      registers.indexed_eq_nil, List.append_nil]
                  exact .further ⟨_, _, rfl⟩ (same ▸ step'.asked_prefix)

namespace Update

variable (operationOf : υ → Except ParseError Operation)

theorem isNormalization_failure (unit quad : Nat) {cause : InsertionError}
    (normalization : Insertion.IsNormalization cause) :
    IsNormalization (failure unit quad cause) := by
  obtain ⟨position, reason, rfl⟩ := normalization
  rfl

theorem insertQuads_extends (unit quad : Nat) (quads : List Quad) (record : Record σ) :
    Outcome.Extends IsNormalization
      (insertQuads (world.recorded Record.never) (.under source namespaces .strict) unit quad quads
        record)
      (insertQuads (world.recorded Record.never) (.under source namespaces .lenient) unit quad quads
        record) := by
  induction quads generalizing quad record with
  | nil => exact .same _
  | cons first rest ih =>
      rw [insertQuads_cons, insertQuads_cons]
      exact (Insertion.insertQuad_extends world source namespaces first record).next
        (fun _ => isNormalization_failure unit quad) (fun _ middle => ih (quad + 1) middle)
        fun _ middle => insertQuads_continues world Record.never _ unit (quad + 1) rest middle

theorem executeUnit_extends (number : Nat) (unit : υ) (record : Record σ) :
    Outcome.Extends IsNormalization
      (executeUnit (world.recorded Record.never) (.under source namespaces .strict) operationOf
        number unit record)
      (executeUnit (world.recorded Record.never) (.under source namespaces .lenient) operationOf
        number unit record) := by
  have live : (world.recorded Record.never).isCancelled record = false := rfl
  rcases operation_cases operationOf unit with
    ⟨cause, unreadable⟩ | ⟨quads, read⟩ | ⟨operation, read, other⟩
  · rw [executeUnit_unreadable _ _ number live unreadable,
      executeUnit_unreadable _ _ number live unreadable]
    exact .same _
  · have silent (middle : Record σ) : ∃ calls, middle.Continues world middle calls :=
      ⟨[], .refl middle⟩
    rw [executeUnit_insertData _ _ number live read, executeUnit_insertData _ _ number live read]
    exact (insertQuads_extends world source namespaces number 0 quads record).next
      (fun _ normalization => normalization) (fun _ _ => .same _) fun _ middle => silent middle
  · rw [executeUnit_unsupported _ _ number live read other,
      executeUnit_unsupported _ _ number live read other]
    exact .same _

theorem executeUnits_extends (number : Nat) (summary : Summary) (units : List υ)
    (record : Record σ) :
    Outcome.Extends IsNormalization
      (executeUnits (world.recorded Record.never) (.under source namespaces .strict) operationOf
        number summary units record)
      (executeUnits (world.recorded Record.never) (.under source namespaces .lenient) operationOf
        number summary units record) := by
  induction units generalizing number summary record with
  | nil => exact .same _
  | cons first rest ih =>
      rw [executeUnits_cons, executeUnits_cons]
      exact (executeUnit_extends world source namespaces operationOf number first record).next
        (fun _ normalization => normalization)
        (fun quads middle => ih (number + 1) (summary.addUnit quads) middle)
        fun quads middle => executeUnits_continues world Record.never _ operationOf (number + 1)
          (summary.addUnit quads) rest middle

variable {operationOf}

/-- Only an abbreviated name can fail for its label where datatypes are read leniently. -/
theorem unresolved_lenient {tree : RequestTree υ} {state : σ} {unit quad : Nat}
    {position : Position} {label : String} {final : Record σ}
    (failed : execute (world.recorded Record.never) ⟨source, .lenient⟩ operationOf tree
        (.start state) =
      (.error (.quadInsertion unit quad (.normalization position (.unresolvedPrefix label))),
        final)) :
    ∃ written quads named suffix, tree.units[unit]? = some written ∧
      operationOf written = .ok (.insertData quads) ∧ quads[quad]? = some named ∧
      named.term? position = some (.uri (.prefixed label suffix)) := by
  obtain ⟨before, written, behind, _, done, named, rest, _, _, _, _, units, number, place, _, read,
    _, _, attempt, _⟩ := effects_of_error failed
  have means : named.statement (.under source (.ofPrologue tree.prologue) .lenient) =
      .error (.normalization position (.unresolvedPrefix label)) := by
    cases attempt with
    | failed keyed =>
        cases keyed with
        | unresolved means _ => exact means
  obtain ⟨term, placed, unknown⟩ := Quad.entry_of_statement_error means
  obtain ⟨suffix, rfl⟩ := Setting.entry_lenient_unresolved unknown
  have there := hasQuad_of_split units read
  rw [number, place] at there
  obtain ⟨written', quads, stands, read', within⟩ := there
  exact ⟨written', quads, named, suffix, stands, read', within, placed⟩

/-- A lenient run asks the backend everything that the strict run asks, and is the strict run unless
that fails at a term. Under the lenient policy no literal fails for the label of its datatype. -/
theorem execute_lenient (world : World σ) (source : LanguageSource)
    (operationOf : υ → Except ParseError Operation) (tree : RequestTree υ) (state : σ) :
    let run (policy : DatatypePolicy) :=
      execute (world.recorded Record.never) ⟨source, policy⟩ operationOf tree (.start state)
    (∀ policy, execute world.uncancelled ⟨source, policy⟩ operationOf tree state =
        Outcome.view Record.state (run policy)) ∧
      (run .strict).2.asked <+: (run .lenient).2.asked ∧
      ((∀ error, (run .strict).1 = .error error → error.normalizationError? = none) →
        run .lenient = run .strict) ∧
      ∀ unit quad position label,
        (run .lenient).1 =
            .error (.quadInsertion unit quad
              (.normalization position (.unresolvedPrefix label))) →
          ∃ written quads named suffix, tree.units[unit]? = some written ∧
            operationOf written = .ok (.insertData quads) ∧ quads[quad]? = some named ∧
            named.term? position = some (.uri (.prefixed label suffix)) := by
  intro run
  have extended : Outcome.Extends IsNormalization (run .strict) (run .lenient) :=
    executeUnits_extends world source (.ofPrologue tree.prologue) operationOf 0 .zero tree.units
      (.start state)
  refine ⟨fun policy => ?_, extended.asked_prefix, fun unfailed => ?_,
    fun unit quad position label failed => ?_⟩
  · exact world.recorded_shows.execute ⟨source, policy⟩ operationOf tree (.start state)
  · refine extended.eq fun error failed normalization => ?_
    rw [IsNormalization, unfailed error failed] at normalization
    cases normalization
  · exact unresolved_lenient world source (Prod.ext failed rfl)

/-- A datatype and a name under a label that is not declared. -/
def undeclared : RequestTree Operation :=
  .update {}
    [.insertData
      [⟨.uri (.absolute "http://s"), .uri (.absolute "http://p"),
          .literal ⟨"1", none, some (.prefixed "x" "int")⟩, none⟩,
        ⟨.uri (.prefixed "x" "s"), .uri (.absolute "http://p"), .uri (.absolute "http://o"),
          none⟩]]

theorem execute_lenient_undeclared :
    let run (policy : DatatypePolicy) := execute ((Memory.world false).recorded Record.never)
      ⟨.language, policy⟩ .ok undeclared (.start .empty)
    (run .strict).1 =
        .error (.quadInsertion 0 0 (.normalization .object (.unresolvedPrefix "x"))) ∧
      (run .lenient).1 =
        .error (.quadInsertion 0 1 (.normalization .subject (.unresolvedPrefix "x"))) ∧
      (run .strict).2.asked <+: (run .lenient).2.asked ∧
      ∃ written quads named suffix, undeclared.units[0]? = some written ∧
        (.ok written : Except ParseError Operation) = .ok (.insertData quads) ∧
        quads[1]? = some named ∧ named.term? .subject = some (.uri (.prefixed "x" suffix)) := by
  intro run
  have extended := execute_lenient (Memory.world false) .language .ok undeclared .empty
  have failed : (run .lenient).1 =
      .error (.quadInsertion 0 1 (.normalization .subject (.unresolvedPrefix "x"))) := by
    decide +kernel
  exact ⟨by decide +kernel, failed, extended.2.1, extended.2.2.2 0 1 .subject "x" failed⟩

end Update

end RdfDataset
