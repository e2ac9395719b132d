import RdfDataset.Proofs.Rdf
import RdfDataset.Sparql.Request

/-!
# Operations without quoted triples

An operation is converted exactly if it inserts no quoted triple, and what it is converted to
inserts quads of RDF: no IRI or datatype is abbreviated, and every term stands where it may. Whether
there can be quoted triples at all depends on how the library has been built.
-/

set_option autoImplicit false

namespace RdfDataset.Sparql

namespace Parsed

def Term.IsPlain (term : Term) : Prop := ∀ text, term ≠ .quoted text

/-- Neither subject nor object is a quoted triple. -/
structure Quad.IsPlain (quad : Quad) : Prop where
  subject : quad.subject.term.IsPlain
  object : quad.object.IsPlain

def Operation.IsPlain : Operation → Prop
  | insertData quads => ∀ quad ∈ quads, quad.IsPlain
  | _ => True

/-- A conversion in two steps succeeds exactly if both steps do. -/
theorem bind_ok_iff {α β : Type} {first : Except ParseError α} {next : α → Except ParseError β}
    {b : β} : first >>= next = .ok b ↔ ∃ a, first = .ok a ∧ next a = .ok b := by
  constructor
  · intro read
    cases first with
    | error cause => cases read
    | ok a => exact ⟨a, rfl, read⟩
  · rintro ⟨a, rfl, read⟩
    exact read

/-! ## Terms -/

theorem isIri_namedNode (iri : String) : (namedNode iri).IsIri := .absolute iri

theorem Literal.convert_full (literal : Literal) (label suffix : String) :
    literal.convert.datatype ≠ some (.prefixed label suffix) := by
  intro same
  unfold convert at same
  split at same
  · cases same
  · split at same <;> cases same

theorem Subject.convert_of_plain {subject : Subject} (plain : subject.term.IsPlain) :
    ∃ term, subject.term.convert = .ok term ∧ term.IsNode := by
  cases subject with
  | iri text => exact ⟨_, rfl, .iri (isIri_namedNode text)⟩
  | blank label => exact ⟨_, rfl, .blank label⟩
  | quoted text => exact absurd rfl (plain text)

theorem Term.convert_of_plain {term : Term} (plain : term.IsPlain) :
    ∃ converted, term.convert = .ok converted ∧ converted.IsObject := by
  cases term with
  | iri text => exact ⟨_, rfl, .node (.iri (isIri_namedNode text))⟩
  | blank label => exact ⟨_, rfl, .node (.blank label)⟩
  | literal value => exact ⟨_, rfl, .literal value.convert value.convert_full⟩
  | quoted text => exact absurd rfl (plain text)

theorem Term.isPlain_of_convert {term : Term} {converted : RdfDataset.Term}
    (read : term.convert = .ok converted) : term.IsPlain := by
  rintro text rfl
  cases read

/-! ## Quads -/

theorem Quad.convert_of_plain {quad : Quad} (plain : quad.IsPlain) :
    ∃ converted, quad.convert = .ok converted ∧ converted.IsRdf := by
  obtain ⟨subject, subjectRead, isNode⟩ := Subject.convert_of_plain plain.subject
  obtain ⟨object, objectRead, isObject⟩ := Term.convert_of_plain plain.object
  refine ⟨⟨subject, namedNode quad.predicate, object, quad.graph.map namedNode⟩, ?_, ?_⟩
  · rw [convert, subjectRead, objectRead]
    rfl
  · refine ⟨isNode, isIri_namedNode quad.predicate, isObject, fun term named => ?_⟩
    obtain ⟨iri, -, rfl⟩ := Option.map_eq_some_iff.mp named
    exact isIri_namedNode iri

theorem Quad.isPlain_of_convert {quad : Quad} {converted : RdfDataset.Quad}
    (read : quad.convert = .ok converted) : quad.IsPlain := by
  obtain ⟨_, subject, read⟩ := bind_ok_iff.mp read
  obtain ⟨_, object, -⟩ := bind_ok_iff.mp read
  exact ⟨Term.isPlain_of_convert subject, Term.isPlain_of_convert object⟩

theorem convert_quads_of_plain {quads : List Quad} (plain : ∀ quad ∈ quads, quad.IsPlain) :
    ∃ converted, quads.mapM Quad.convert = .ok converted ∧ ∀ quad ∈ converted, quad.IsRdf := by
  induction quads with
  | nil => exact ⟨[], rfl, List.forall_mem_nil _⟩
  | cons quad quads ih =>
      rw [List.forall_mem_cons] at plain
      obtain ⟨first, firstRead, isRdf⟩ := Quad.convert_of_plain plain.1
      obtain ⟨rest, restRead, areRdf⟩ := ih plain.2
      refine ⟨first :: rest, ?_, List.forall_mem_cons.mpr ⟨isRdf, areRdf⟩⟩
      rw [List.mapM_cons, firstRead, restRead]
      rfl

theorem isPlain_of_convert_quads {quads : List Quad} {converted : List RdfDataset.Quad}
    (read : quads.mapM Quad.convert = .ok converted) : ∀ quad ∈ quads, quad.IsPlain := by
  induction quads generalizing converted with
  | nil => exact List.forall_mem_nil _
  | cons quad quads ih =>
      rw [List.mapM_cons] at read
      obtain ⟨_, first, read⟩ := bind_ok_iff.mp read
      obtain ⟨_, rest, -⟩ := bind_ok_iff.mp read
      exact List.forall_mem_cons.mpr ⟨Quad.isPlain_of_convert first, ih rest⟩

/-! ## Operations -/

theorem Operation.convert_of_plain {operation : Operation} (plain : operation.IsPlain) :
    ∃ converted, operation.convert = .ok converted ∧ converted.IsRdf := by
  cases operation with
  | insertData quads =>
      obtain ⟨quads', read, rdf⟩ := convert_quads_of_plain plain
      refine ⟨.insertData quads', ?_, rdf⟩
      rw [convert, read]
      rfl
  | _ => exact ⟨_, rfl, trivial⟩

/-- Quoted triples, and nothing else, keep an operation from being converted. -/
theorem Operation.isPlain_iff (operation : Operation) :
    operation.IsPlain ↔ ∃ converted, operation.convert = .ok converted := by
  constructor
  · intro plain
    obtain ⟨converted, read, -⟩ := convert_of_plain plain
    exact ⟨converted, read⟩
  · rintro ⟨converted, read⟩
    cases operation with
    | insertData quads =>
        obtain ⟨_, each, -⟩ := bind_ok_iff.mp read
        exact isPlain_of_convert_quads each
    | _ => trivial

end Parsed

/-! ## Texts -/

/-- What the library finds in updates is built without quoted triples. -/
def Library.InsertsPlain (library : Library) : Prop :=
  ∀ base text update, library.update? base text = some update →
    ∀ operation ∈ update.operations, operation.IsPlain

/-- A text is a query, an update of operations that can all be converted, or malformed. -/
theorem readTree_cases {library : Library} (plain : library.InsertsPlain) (options : TextOptions)
    (text : String) :
    (∃ prologue, readTree library options text = .ok (.query prologue)) ∨
      (∃ prologue units, readTree library options text = .ok (.update prologue units) ∧
        ∀ unit ∈ units, ∃ operation, unit.convert = .ok operation ∧ operation.IsRdf) ∨
      ∃ grammar, readTree library options text = .error (.malformed grammar) := by
  rw [readTree]
  split
  · exact Or.inl ⟨_, rfl⟩
  · right
    split
    next update read =>
        exact Or.inl ⟨_, _, rfl, fun unit member =>
          Parsed.Operation.convert_of_plain (plain _ _ update read unit member)⟩
    next => exact Or.inr ⟨_, rfl⟩

end RdfDataset.Sparql
