/-!
# Terms and quads

The terms of an update request as they are written: URIs in full or abbreviated by a namespace
label, literals with an optional language tag and an optional datatype, and labelled blank nodes.
Terms are compared as written: an abbreviated URI differs from its expansion.
-/

set_option autoImplicit false

namespace RdfDataset

def bracketed (text : String) : String := "<" ++ text ++ ">"

def abbreviated (label suffix : String) : String := label ++ ":" ++ suffix

/-- A URI of a request. An abbreviated one stands for the namespace of its label followed by the
suffix. -/
inductive Uri where
  | absolute (text : String)
  | prefixed (label suffix : String)
deriving DecidableEq

namespace Uri

def render : Uri → String
  | absolute text => bracketed text
  | prefixed label suffix => abbreviated label suffix

end Uri

/-- The datatype of a literal: a URI, or a text that needs no resolution any more. -/
inductive Datatype where
  | absolute (text : String)
  | prefixed (label suffix : String)
  | resolved (text : String)
deriving DecidableEq

namespace Datatype

def render : Datatype → String
  | absolute text => bracketed text
  | prefixed label suffix => abbreviated label suffix
  | resolved text => bracketed text

end Datatype

/-- A literal. A request may give it a language tag and a datatype at once. -/
structure Literal where
  value : String
  language : Option String := none
  datatype : Option Datatype := none
deriving DecidableEq

namespace Literal

/-- The value in quotes, without any escapes, then language tag and datatype if there are any. -/
def render (literal : Literal) : String :=
  "\"" ++ literal.value ++ "\""
    ++ (literal.language.map ("@" ++ ·)).getD ""
    ++ (literal.datatype.map fun datatype => "^^" ++ datatype.render).getD ""

end Literal

inductive Term where
  | uri (uri : Uri)
  | literal (literal : Literal)
  | blankNode (label : String)
deriving DecidableEq

namespace Term

def kind : Term → String
  | uri _ => "uri"
  | literal _ => "literal"
  | blankNode _ => "blanknode"

def render : Term → String
  | uri u => u.render
  | literal l => l.render
  | blankNode label => "_:" ++ label

end Term

/-- A statement in a graph. Without a graph it belongs to the default graph. Every term may stand in
every position. -/
structure Quad where
  subject : Term
  predicate : Term
  object : Term
  graph : Option Term := none
deriving DecidableEq

namespace Quad

/-- Subject, predicate, object and the graph if there is one, separated by blanks. -/
def render (quad : Quad) : String :=
  quad.subject.render ++ " " ++ quad.predicate.render ++ " " ++ quad.object.render
    ++ (quad.graph.map fun graph => " " ++ graph.render).getD ""

end Quad

/-- The positions of a quad, in the order in which their terms are looked at. -/
inductive Position where
  | graph
  | subject
  | predicate
  | object
deriving DecidableEq, Ord

namespace Position

def render : Position → String
  | graph => "graph"
  | subject => "subject"
  | predicate => "predicate"
  | object => "object"

end Position

end RdfDataset
