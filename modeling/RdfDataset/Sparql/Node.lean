import RdfDataset.Sparql.Literal

/-!
# Nodes

What may stand in a triple of a request. Data is made of IRIs, literals and blank nodes; in patterns
there are variables as well. Verbs and graphs are IRIs or variables and nothing else.
-/

set_option autoImplicit false

namespace RdfDataset.Sparql

inductive IriOrVariable where
  | iri (text : String)
  | var (name : String)
deriving DecidableEq

namespace IriOrVariable

def iri? : IriOrVariable → Option String
  | iri text => some text
  | var _ => none

def vars : IriOrVariable → List String
  | iri _ => []
  | var name => [name]

end IriOrVariable

inductive Node where
  | iri (text : String)
  | literal (value : Parsed.Literal)
  | blank (label : String)
  | var (name : String)
deriving DecidableEq

inductive Vocabulary where
  | type
  | first
  | rest
  | nil
deriving DecidableEq

def Vocabulary.iri : Vocabulary → String
  | type => "http://www.w3.org/1999/02/22-rdf-syntax-ns#type"
  | first => "http://www.w3.org/1999/02/22-rdf-syntax-ns#first"
  | rest => "http://www.w3.org/1999/02/22-rdf-syntax-ns#rest"
  | nil => "http://www.w3.org/1999/02/22-rdf-syntax-ns#nil"

namespace Node

/-- The term of a node. A variable stands for none. -/
def term? : Node → Option Parsed.Term
  | iri text => some (.iri text)
  | literal value => some (.literal value)
  | blank label => some (.blank label)
  | var _ => none

/-- A literal is no subject. -/
def subject? : Node → Option Parsed.Subject
  | iri text => some (.iri text)
  | blank label => some (.blank label)
  | _ => none

def vars : Node → List String
  | var name => [name]
  | _ => []

def isBlank : Node → Bool
  | blank _ => true
  | _ => false

end Node

namespace Reader

/-- The empty list, which also ends every other list. -/
def nil : Node := .iri Vocabulary.nil.iri

/-- Opening and closing sign with nothing but gaps between them, not even comments. -/
def emptyPair (opening closing : String) : Reader Unit := do
  symbol opening
  let _ ← run isGap
  symbol closing

def simpleNode : Reader Node := oneOf
  [.var <$> variableName, .iri <$> iri, .literal <$> literal, .blank <$> blankLabel,
    emptyPair "[" "]" *> (.blank <$> freshLabel), emptyPair "(" ")" *> pure nil]

def variableOrIri : Reader IriOrVariable := (.var <$> variableName) <|> (.iri <$> iri)

end Reader

end RdfDataset.Sparql
