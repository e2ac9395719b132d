import RdfDataset.Sparql.Update

/-!
# The grammar of requests

The library with which texts are read unless another one is given. It declares nothing of its own.
-/

set_option autoImplicit false

namespace RdfDataset.Sparql

namespace Reader

def query (base : Option String) (text : String) : Consultation Bool := do
  return (← queryRequest.run? text.toList base).isSome

def update (base : Option String) (text : String) : Consultation (Option Parsed.Update) := do
  return (← updateRequest.run? text.toList base).map fun (operations, cursor) =>
    { operations, base := cursor.base }

end Reader

def grammar : Library where
  isIri := Iri.isIri
  isQuery base text := (Reader.query base text).alone
  update? base text := (Reader.update base text).alone

end RdfDataset.Sparql
