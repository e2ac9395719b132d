import RdfDataset.BlankLabel
import RdfDataset.Sparql.Request

/-!
# Labels of blank nodes in parsed operations

A library is free to choose labels for the blank nodes of a text. Other labels before an operation
is converted are other labels behind it, and nothing else.
-/

set_option autoImplicit false

namespace RdfDataset.Sparql

namespace Parsed

def Subject.relabel (rename : String → String) : Subject → Subject
  | .blank label => .blank (rename label)
  | subject => subject

def Term.relabel (rename : String → String) : Term → Term
  | .blank label => .blank (rename label)
  | term => term

def Quad.relabel (rename : String → String) (quad : Quad) : Quad :=
  { quad with subject := quad.subject.relabel rename, object := quad.object.relabel rename }

def Operation.relabel (rename : String → String) : Operation → Operation
  | insertData quads => insertData (quads.map (Quad.relabel rename))
  | operation => operation

def Update.relabel (rename : String → String) (update : Update) : Update :=
  { update with operations := update.operations.map (Operation.relabel rename) }

variable (rename rename' : String → String)

/-! ## The same labels, and others after others -/

theorem Quad.relabel_id (quad : Quad) : quad.relabel id = quad := by
  obtain ⟨subject, predicate, object, graph⟩ := quad
  cases subject <;> cases object <;> rfl

theorem Operation.relabel_id (operation : Operation) : operation.relabel id = operation := by
  cases operation with
  | insertData quads =>
      rw [relabel, List.map_id'' Quad.relabel_id]
  | _ => rfl

theorem Update.relabel_id (update : Update) : update.relabel id = update := by
  rw [relabel, List.map_id'' Operation.relabel_id]

theorem Quad.relabel_relabel (quad : Quad) :
    (quad.relabel rename).relabel rename' = quad.relabel (rename' ∘ rename) := by
  obtain ⟨subject, predicate, object, graph⟩ := quad
  cases subject <;> cases object <;> rfl

theorem Operation.relabel_relabel (operation : Operation) :
    (operation.relabel rename).relabel rename' = operation.relabel (rename' ∘ rename) := by
  cases operation with
  | insertData quads =>
      rw [relabel, relabel, relabel, List.map_map]
      exact congrArg insertData (List.map_congr_left fun quad _ => Quad.relabel_relabel _ _ quad)
  | _ => rfl

theorem Update.relabel_relabel (update : Update) :
    (update.relabel rename).relabel rename' = update.relabel (rename' ∘ rename) := by
  rw [relabel, relabel, relabel, List.map_map]
  exact congrArg (fun operations => { update with operations })
    (List.map_congr_left fun operation _ => Operation.relabel_relabel _ _ operation)

/-! ## Conversion -/

theorem Subject.convert_relabel (subject : Subject) :
    (subject.relabel rename).term.convert =
      subject.term.convert.map (RdfDataset.Term.relabel rename) := by
  cases subject <;> rfl

theorem Term.convert_relabel (term : Term) :
    (term.relabel rename).convert = term.convert.map (RdfDataset.Term.relabel rename) := by
  cases term <;> rfl

theorem Quad.convert_relabel (quad : Quad) :
    (quad.relabel rename).convert = quad.convert.map (RdfDataset.Quad.relabel rename) := by
  have graph : (quad.graph.map namedNode).map (RdfDataset.Term.relabel rename) =
      quad.graph.map namedNode := by
    cases quad.graph <;> rfl
  rw [convert, convert, relabel, Subject.convert_relabel, Term.convert_relabel]
  cases quad.subject.term.convert with
  | error cause => rfl
  | ok subject =>
      cases quad.object.convert with
      | error cause => rfl
      | ok object =>
          refine congrArg Except.ok ?_
          rw [RdfDataset.Quad.relabel, graph]
          rfl

/-- A conversion of every member of a list passes on what is done to the members. -/
theorem mapM_convert_map {α α' β : Type} {convert : α → Except ParseError β}
    {convert' : α' → Except ParseError β} {f : α → α'} {g : β → β}
    (each : ∀ a, convert' (f a) = (convert a).map g) (as : List α) :
    (as.map f).mapM convert' = (as.mapM convert).map (List.map g) := by
  induction as with
  | nil => rfl
  | cons a as ih =>
      rw [List.map_cons, List.mapM_cons, List.mapM_cons, each, ih]
      cases convert a with
      | error cause => rfl
      | ok b => cases as.mapM convert <;> rfl

theorem Operation.convert_relabel (operation : Operation) :
    (operation.relabel rename).convert =
      operation.convert.map (RdfDataset.Operation.relabel rename) := by
  cases operation with
  | insertData quads =>
      rw [relabel, convert, convert, mapM_convert_map (Quad.convert_relabel rename)]
      cases quads.mapM Quad.convert <;> rfl
  | _ => rfl

end Parsed

end RdfDataset.Sparql
