import RdfDataset.Proofs.Execution.Agreement
import RdfDataset.Proofs.Execution.Ending

/-!
# RDF quads

A quad can hold any term in any position. The quads of RDF are fewer: their IRIs are written in
full, their predicates and graphs are IRIs, and only the object can be a literal. What such a quad
means depends neither on the declared namespaces nor on the policy for abbreviated datatypes, and
the only way for it to mean nothing is a blank node, in one of the two positions that allow it.

Operations that insert only such quads inherit this: they are executed alike under all settings that
agree on the tags of literals, and what they can fail with is a list of three causes.
-/

set_option autoImplicit false

namespace RdfDataset

namespace Term

inductive IsIri : Term → Prop
  | absolute (text : String) : IsIri (.uri (.absolute text))

/-- The terms that RDF allows as subjects. -/
inductive IsNode : Term → Prop
  | iri {term : Term} (iri : term.IsIri) : IsNode term
  | blank (label : String) : IsNode (.blankNode label)

/-- The terms that RDF allows as objects. The datatype of a literal is not abbreviated. -/
inductive IsObject : Term → Prop
  | node {term : Term} (node : term.IsNode) : IsObject term
  | literal (literal : Literal)
      (full : ∀ label suffix, literal.datatype ≠ some (.prefixed label suffix)) :
      IsObject (.literal literal)

end Term

structure Quad.IsRdf (quad : Quad) : Prop where
  subject : quad.subject.IsNode
  predicate : quad.predicate.IsIri
  object : quad.object.IsObject
  graph : ∀ term ∈ quad.graph, term.IsIri

def NormalizationError.blankNode : NormalizationError := .unsupportedTermKind "blanknode"

/-! ## Entries of their terms -/

theorem Literal.canonical_of_full {literal : Literal}
    (full : ∀ label suffix, literal.datatype ≠ some (.prefixed label suffix))
    (source : LanguageSource) :
    ∃ text, ∀ (options : LiteralOptions) (env : Namespaces), options.languageSource = source →
      literal.canonical options env = .ok text := by
  cases datatype : literal.datatype with
  | none =>
      -- Only here does it matter where the tag is taken from.
      cases stored : literal.storedLanguage source with
      | none =>
          refine ⟨literal.value, fun options env same => ?_⟩
          simp only [canonical, datatype, same, stored]
      | some language =>
          refine ⟨taggedText literal.value language, fun options env same => ?_⟩
          simp only [canonical, datatype, same, stored]
  | some datatype' =>
      cases datatype' with
      | absolute text =>
          refine ⟨typedText literal.value text, fun options env _ => ?_⟩
          simp only [canonical, datatype]
      | resolved text =>
          refine ⟨typedText literal.value text, fun options env _ => ?_⟩
          simp only [canonical, datatype]
      | prefixed label suffix => exact absurd datatype (full label suffix)

namespace Term

variable {term : Term}

theorem IsIri.entry (iri : term.IsIri) : ∃ entry, ∀ setting : Setting,
    setting.entry term = .ok entry := by
  cases iri with
  | absolute text => exact ⟨.uri text, fun _ => rfl⟩

/-- An object has an entry, the same one for all namespaces, or is a blank node. -/
theorem IsObject.entry (object : term.IsObject) (source : LanguageSource) :
    ∃ answer : Except NormalizationError Entry,
      (∀ cause, answer = .error cause → cause = .blankNode) ∧
      ∀ setting : Setting, setting.literals.languageSource = source →
        setting.entry term = answer := by
  cases object with
  | node node =>
      cases node with
      | iri iri =>
          obtain ⟨entry, known⟩ := iri.entry
          exact ⟨.ok entry, (fun _ failed => nomatch failed), fun setting _ => known setting⟩
      | blank label =>
          refine ⟨.error .blankNode, ?_, fun _ _ => rfl⟩
          rintro cause ⟨⟩
          rfl
  | literal literal full =>
      obtain ⟨text, known⟩ := literal.canonical_of_full full source
      refine ⟨.ok (.literal text), (fun _ failed => nomatch failed), fun setting same => ?_⟩
      rw [Setting.entry, Term.entry, known _ _ same]
      rfl

theorem IsObject.entry_agree (object : term.IsObject) {setting setting' : Setting}
    (same : setting.literals.languageSource = setting'.literals.languageSource) :
    setting.entry term = setting'.entry term := by
  obtain ⟨answer, _, known⟩ := object.entry setting.literals.languageSource
  rw [known setting rfl, known setting' same.symm]

theorem IsObject.entry_error (object : term.IsObject) {setting : Setting}
    {cause : NormalizationError} (failed : setting.entry term = .error cause) :
    cause = .blankNode := by
  obtain ⟨answer, blank, known⟩ := object.entry setting.literals.languageSource
  exact blank cause ((known setting rfl).symm.trans failed)

end Term

/-! ## Statements of the quads -/

namespace Quad.IsRdf

variable {quad : Quad}

theorem graphEntry (rdf : quad.IsRdf) :
    ∃ entry, ∀ setting : Setting, setting.graphEntry quad.graph = .ok entry := by
  cases graph : quad.graph with
  | none => exact ⟨none, fun _ => rfl⟩
  | some term =>
      obtain ⟨entry, known⟩ := (rdf.graph term (by rw [graph]; rfl)).entry
      refine ⟨some entry, fun setting => ?_⟩
      rw [Setting.graphEntry, known]
      rfl

theorem agree (rdf : quad.IsRdf) {setting setting' : Setting}
    (same : setting.literals.languageSource = setting'.literals.languageSource) :
    quad.Agree setting setting' quad := by
  obtain ⟨graph, graphKnown⟩ := rdf.graphEntry
  obtain ⟨predicate, predicateKnown⟩ := rdf.predicate.entry
  exact
    { subject := (Term.IsObject.node rdf.subject).entry_agree same
      predicate := (predicateKnown setting).trans (predicateKnown setting').symm
      object := rdf.object.entry_agree same
      graph := (graphKnown setting).trans (graphKnown setting').symm }

/-- Such a quad fails at a blank node, and blank nodes are subjects or objects. -/
theorem statement_error (rdf : quad.IsRdf) {setting : Setting} {position : Position}
    {cause : NormalizationError}
    (failed : quad.statement setting = .error (.normalization position cause)) :
    (position = .subject ∨ position = .object) ∧ cause = .blankNode := by
  obtain ⟨graph, graphKnown⟩ := rdf.graphEntry
  obtain ⟨predicate, predicateKnown⟩ := rdf.predicate.entry
  unfold Quad.statement at failed
  -- Graph and predicate have entries in any case, which leaves two positions to fail.
  rw [graphKnown setting, predicateKnown setting] at failed
  cases subject : setting.entry quad.subject with
  | error cause' =>
      obtain rfl := (Term.IsObject.node rdf.subject).entry_error subject
      rw [subject] at failed
      cases failed
      exact ⟨Or.inl rfl, rfl⟩
  | ok subject' =>
      cases object : setting.entry quad.object with
      | error cause' =>
          obtain rfl := rdf.object.entry_error object
          rw [subject, object] at failed
          cases failed
          exact ⟨Or.inr rfl, rfl⟩
      | ok object' =>
          rw [subject, object] at failed
          cases failed

end Quad.IsRdf

/-! ## Operations -/

/-- An operation that inserts no other quads than those of RDF. -/
def Operation.IsRdf : Operation → Prop
  | insertData quads => ∀ quad ∈ quads, quad.IsRdf
  | _ => True

theorem Operation.IsRdf.alike {unit : Operation} (rdf : unit.IsRdf) {setting setting' : Setting}
    (same : setting.literals.languageSource = setting'.literals.languageSource) :
    Update.Alike setting setting' (.ok unit) (.ok unit) := by
  cases unit with
  | insertData quads =>
      exact .insertData (List.forall₂_same.mpr fun quad member => (rdf quad member).agree same)
  | _ => exact .same fun _ other => nomatch other

/-- The operations that are refused, by the names under which they are reported. -/
def Operation.refused : List String :=
  ["deletedata", "modify", "load", "clear", "create", "drop"]

theorem Operation.kind_mem_refused {operation : Operation}
    (other : ∀ quads, operation ≠ .insertData quads) : operation.kind ∈ refused := by
  cases operation with
  | insertData quads => exact absurd rfl (other quads)
  | _ => simp [kind, refused]

/-- What an execution of operations on RDF quads can fail with if nobody cancels it. -/
inductive ExecutionError.OfRdf : ExecutionError → Prop
  | unsupported {kind : String} (refused : kind ∈ Operation.refused) :
      OfRdf (.unsupportedUnit kind)
  | blankNode (unit quad : Nat) {position : Position}
      (place : position = .subject ∨ position = .object) :
      OfRdf (.quadInsertion unit quad (.normalization position .blankNode))
  | storage (unit quad : Nat) (cause : StorageError) :
      OfRdf (.quadInsertion unit quad (.backend cause))

/-! ## Their execution -/

section Worlds

variable {σ : Type} (world : World σ) (setting : Setting)

theorem Quad.IsRdf.insertQuad_error {quad : Quad} (rdf : quad.IsRdf) {record : Record σ}
    {cause : InsertionError}
    (failed : (Insertion.insertQuad (world.recorded Record.never) setting quad record).1 =
      .error cause) :
    (∃ storage, cause = .backend storage) ∨
      ∃ position, (position = .subject ∨ position = .object) ∧
        cause = .normalization position .blankNode := by
  obtain ⟨calls, _, attempt⟩ :=
    Insertion.insertQuad_attempt world Record.never setting quad record
  rw [failed] at attempt
  cases attempt with
  | refused _ => exact Or.inl ⟨_, rfl⟩
  | cancelled _ seen => cases seen
  | failed keyed =>
      cases keyed with
      | unresolved means _ =>
          obtain ⟨place, rfl⟩ := rdf.statement_error means
          exact Or.inr ⟨_, place, rfl⟩
      | cancelled seen _ => cases seen

theorem Update.executeUnits_ofRdf {υ : Type} {operationOf : υ → Except ParseError Operation}
    {units : List υ}
    (rdf : ∀ unit ∈ units, ∃ operation, operationOf unit = .ok operation ∧ operation.IsRdf)
    {summary : Summary} {record final : Record σ} {error : ExecutionError}
    (failed : executeUnits (world.recorded Record.never) setting operationOf 0 summary units
      record = (.error error, final)) : error.OfRdf := by
  obtain ⟨before, unit, behind, _, middle, rfl, _, here⟩ := executeUnits_stops failed
  obtain ⟨operation, converted, isRdf⟩ := rdf unit (by simp)
  rcases executeUnit_stops rfl here with
    ⟨cause, unreadable, _⟩ | ⟨operation', read, other, rfl, _⟩ |
      ⟨done, quad, rest, cause, middle', read, rfl, _, inserted⟩
  · cases converted.symm.trans unreadable
  · exact .unsupported (Operation.kind_mem_refused other)
  · cases converted.symm.trans read
    have quadRdf : quad.IsRdf := isRdf quad (by simp)
    rcases quadRdf.insertQuad_error world setting (congrArg Prod.fst inserted) with
      ⟨storage, rfl⟩ | ⟨position, place, rfl⟩
    · exact .storage _ _ storage
    · exact .blankNode _ _ place

end Worlds

end RdfDataset
