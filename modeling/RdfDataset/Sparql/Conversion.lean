import RdfDataset.Failure
import RdfDataset.Sparql.Library

/-!
# Operations of a parsed update

An update that has been read is turned into the operations of the executor, one by one. Quads get
terms in full; quoted triples have no counterpart, and the first one makes the operation fail.
-/

set_option autoImplicit false

namespace RdfDataset.Sparql

def stringDatatype : String := "http://www.w3.org/2001/XMLSchema#string"

namespace Parsed

def namedNode (iri : String) : RdfDataset.Term := .uri (.absolute iri)

/-- A tagged literal keeps its tag alone, and the datatype of strings is not written down. -/
def Literal.convert (literal : Literal) : RdfDataset.Literal :=
  match literal.language with
  | some language => { value := literal.value, language := some language }
  | none =>
    if literal.datatype = stringDatatype then { value := literal.value }
    else { value := literal.value, datatype := some (.absolute literal.datatype) }

def Term.convert : Term → Except ParseError RdfDataset.Term
  | .iri text => .ok (namedNode text)
  | .blank label => .ok (.blankNode label)
  | .literal value => .ok (.literal value.convert)
  | .quoted text => .error (.unsupportedTerm text)

def Quad.convert (quad : Quad) : Except ParseError RdfDataset.Quad := do
  let subject ← quad.subject.term.convert
  let object ← quad.object.convert
  return {
    subject
    predicate := namedNode quad.predicate
    object
    graph := quad.graph.map namedNode }

def Operation.convert : Operation → Except ParseError RdfDataset.Operation
  | insertData quads => do return .insertData (← quads.mapM Quad.convert)
  | deleteData => .ok .deleteData
  | deleteInsert => .ok .modify
  | load => .ok .load
  | clear => .ok .clear
  | create => .ok .create
  | drop => .ok .drop

end Parsed

end RdfDataset.Sparql
