/-!
# The library of the grammar

Request texts are read by a library. It tells which texts are IRIs, whether a text is a query, and
what the operations of an update are, with their terms in a form of its own. Whatever the library
makes of a text, its answers are treated alike: nothing here, and nothing that is stated for all
libraries, depends on how it finds them.
-/

set_option autoImplicit false

namespace RdfDataset.Sparql

/-! ## What the library hands over -/

namespace Parsed

/-- A literal by the answers it gives on its parts. One without a datatype of its own has that of
strings. -/
structure Literal where
  value : String
  language : Option String
  datatype : String
deriving DecidableEq

inductive Term where
  | iri (text : String)
  | blank (label : String)
  | literal (literal : Literal)
  /-- A quoted triple, of which only its text is ever used. -/
  | quoted (text : String)
deriving DecidableEq

inductive Subject where
  | iri (text : String)
  | blank (label : String)
  | quoted (text : String)
deriving DecidableEq

/-- A quad to be inserted. Without a graph it belongs to the default graph. -/
structure Quad where
  subject : Subject
  predicate : String
  object : Term
  graph : Option String
deriving DecidableEq

/-- An operation of an update. Only insertion of data carries its content. -/
inductive Operation where
  | insertData (quads : List Quad)
  | deleteData
  | deleteInsert
  | load
  | clear
  | create
  | drop
deriving DecidableEq

/-- An update with the base IRI in force at its end. -/
structure Update where
  operations : List Operation
  base : Option String
deriving DecidableEq

def Subject.term : Subject → Term
  | iri text => .iri text
  | blank label => .blank label
  | quoted text => .quoted text

end Parsed

/-! ## What the library is asked -/

/-- A library that reads request texts, under a base IRI if there is one. -/
structure Library where
  isIri : String → Bool
  isQuery : Option String → String → Bool
  update? : Option String → String → Option Parsed.Update

end RdfDataset.Sparql
