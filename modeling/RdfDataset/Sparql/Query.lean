import RdfDataset.Sparql.Pattern

/-!
# Queries

The four forms of retrieval queries. They are never executed, so that reading one only tells whether
the text is a query.
-/

set_option autoImplicit false

namespace RdfDataset.Sparql.Reader

/-- Sets the base IRI, which may itself be relative to the one before. -/
def baseDeclaration : Reader Unit := do
  word "BASE"
  let iri ← iriReference
  modify fun cursor => { cursor with base := some iri }

/-- Declares a namespace, which may be relative to the base in force. -/
def spaceDeclaration : Reader Unit := do
  word "PREFIX"
  let label ← lexeme spaceLabel
  let iri ← iriReference
  modify fun cursor => { cursor with spaces := (label, iri) :: cursor.spaces }

def prologue : Reader Unit := do
  let _ ← many (lexeme (baseDeclaration <|> spaceDeclaration))

def datasetClauses : Reader Unit := do
  let _ ← many (lexeme do
    word "FROM"
    iri <|> (word "NAMED" *> iri))

section Forms

variable (inner : Inner)

def selectQuery : Reader Unit := do
  let selection ← lexeme (selectClause inner)
  datasetClauses
  let _ ← queryBody inner selection (whereClause inner)

def constructTemplate : Reader Unit := do
  let _ ← braced do
    let _ ← separated (lexeme (statement plainVerbs)) (token ".")
    symbol "." <|> pure ()

def shortTemplate : Reader Scope := do
  word "WHERE"
  braced do
    let triples ← statements plainVerbs <|> pure []
    return triples.flatMap fun triple =>
      triple.subject.vars ++ triple.verb.vars ++ triple.object.vars

def constructQuery : Reader Unit := do
  word "CONSTRUCT"
  (do
    lexeme constructTemplate
    datasetClauses
    let _ ← queryBody inner .untouched (whereClause inner))
  <|> (do
    datasetClauses
    let _ ← queryBody inner .untouched shortTemplate)

/-- Asks for a description of everything, or of some resources. The pattern may be missing. -/
def describeQuery : Reader Unit := do
  word "DESCRIBE"
  let described : Reader Selected := do
    match ← variableOrIri with
    | .var name => return .var name
    | _ => return .unnamed
  let selection ← (token "*" *> pure .untouched) <|> (.members <$> many1 (lexeme described))
  datasetClauses
  let _ ← queryBody inner selection (whereClause inner <|> pure [])

def askQuery : Reader Unit := do
  word "ASK"
  datasetClauses
  let _ ← queryBody inner .untouched (whereClause inner)

end Forms

def queryRequest : Reader Unit := do
  blank
  prologue
  let inner := Inner.upTo (← get).rest.length
  lexeme (oneOf [selectQuery inner, constructQuery inner, describeQuery inner, askQuery inner])

end RdfDataset.Sparql.Reader
