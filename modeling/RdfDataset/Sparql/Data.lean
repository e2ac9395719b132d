import RdfDataset.Sparql.Triples

/-!
# Quads of a request

Quads in braces: statements of the default graph, and blocks of statements of a named graph. Where
quads are data, their nodes have to be terms, and only the object can be a literal.
-/

set_option autoImplicit false

namespace RdfDataset.Sparql

structure QuadPattern where
  subject : Node
  predicate : IriOrVariable
  object : Node
  graph : Option IriOrVariable
deriving DecidableEq

namespace QuadPattern

def ofTriple (graph : Option IriOrVariable) (triple : Triple IriOrVariable) : QuadPattern :=
  ⟨triple.subject, triple.verb, triple.object, graph⟩

def data? (pattern : QuadPattern) : Option Parsed.Quad := do
  return {
    subject := ← pattern.subject.subject?
    predicate := ← pattern.predicate.iri?
    object := ← pattern.object.term?
    graph := ← pattern.graph.mapM IriOrVariable.iri? }

def isGround (pattern : QuadPattern) : Bool :=
  !pattern.subject.isBlank && !pattern.object.isBlank

end QuadPattern

namespace Reader

def plainVerbs : Verbs IriOrVariable where
  read := variableOrIri <|> (symbol "a" *> pure (.iri Vocabulary.type.iri))
  iri := .iri

def braced {α : Type} (inner : Reader α) : Reader α := do
  token "\x7b"
  let a ← lexeme inner
  symbol "\x7d"
  return a

def defaultBlock : Reader (List QuadPattern) := do
  return (← statements plainVerbs).map (.ofTriple none)

/-- Statements of a named graph. A dot may follow. -/
def namedBlock : Reader (List QuadPattern) := do
  word "GRAPH"
  let graph ← lexeme variableOrIri
  let triples ← lexeme (braced (statements plainVerbs <|> pure []))
  symbol "." <|> pure ()
  return triples.map (.ofTriple (some graph))

def quadBlock : Reader (List QuadPattern) := braced do
  return (← separated (defaultBlock <|> namedBlock) blank).flatten

def dataBlock : Reader (List Parsed.Quad) := do
  match (← quadBlock).mapM QuadPattern.data? with
  | some quads => return quads
  | none => failure

def groundBlock : Reader (List QuadPattern) := do
  let patterns ← quadBlock
  guard (patterns.all QuadPattern.isGround)
  return patterns

def groundDataBlock : Reader Unit := do
  guard (((← groundBlock).mapM QuadPattern.data?).isSome)

end Reader

end RdfDataset.Sparql
