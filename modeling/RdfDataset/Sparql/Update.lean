import RdfDataset.Sparql.Query

/-!
# Updates

The operations of update requests. Most operations are one unit each; those that copy a graph are
made of simpler units, and of none if the graph would be copied onto itself.
-/

set_option autoImplicit false

namespace RdfDataset.Sparql.Reader

def silently : Reader Unit := word "SILENT" <|> pure ()

def namedGraph : Reader Unit := word "GRAPH" *> iri *> pure ()

def graphTarget : Reader Unit := oneOf
  [namedGraph, keyword "DEFAULT", keyword "NAMED", keyword "ALL"]

def graphOrDefault : Reader (Option String) :=
  (keyword "DEFAULT" *> pure none) <|> (do
    word "GRAPH" <|> pure ()
    return some (← iri))

def load : Reader (List Parsed.Operation) := do
  word "LOAD"
  silently
  let _ ← lexeme iri
  (word "INTO" *> namedGraph) <|> pure ()
  return [.load]

def clear : Reader (List Parsed.Operation) := do
  word "CLEAR"
  silently
  graphTarget
  return [.clear]

def drop : Reader (List Parsed.Operation) := do
  word "DROP"
  silently
  graphTarget
  return [.drop]

def create : Reader (List Parsed.Operation) := do
  word "CREATE"
  silently
  namedGraph
  return [.create]

def transfer (name : String) (units : List Parsed.Operation) : Reader (List Parsed.Operation) := do
  word name
  silently
  let source ← lexeme graphOrDefault
  word "TO"
  let target ← graphOrDefault
  return if source = target then [] else units

def insertData : Reader (List Parsed.Operation) := do
  word "INSERT"
  word "DATA"
  return [.insertData (← dataBlock)]

def deleteData : Reader (List Parsed.Operation) := do
  word "DELETE"
  word "DATA"
  groundDataBlock
  return [.deleteData]

def deleteWhere : Reader (List Parsed.Operation) := do
  word "DELETE"
  word "WHERE"
  let _ ← groundBlock
  return [.deleteInsert]

def templates : Reader Unit :=
  let insertion := word "INSERT" *> quadBlock *> pure ()
  (do
    word "DELETE"
    let _ ← lexeme groundBlock
    insertion <|> pure ())
  <|> insertion

def usingClauses : Reader Unit := do
  let _ ← many (lexeme do
    word "USING"
    iri <|> (word "NAMED" *> iri))

/-- Templates with a pattern, which share no labels of blank nodes. Those of earlier operations are
free again. -/
def modification : Reader (List Parsed.Operation) := do
  lexeme ((word "WITH" *> iri *> pure ()) <|> pure ())
  forgetLabels
  lexeme templates
  usingClauses
  word "WHERE"
  let _ ← (Inner.upTo (← get).rest.length).group
  return [.deleteInsert]

def operation : Reader (List Parsed.Operation) := oneOf
  [load, clear, drop, transfer "ADD" [.deleteInsert], transfer "MOVE" [.drop, .deleteInsert, .drop],
    transfer "COPY" [.drop, .deleteInsert], create, insertData, deleteData, deleteWhere,
    modification]

/-- A request that is an update: operations with semicolons between them. One more semicolon may
follow, and there may be no operation at all. -/
def updateRequest : Reader (List Parsed.Operation) := do
  blank
  prologue
  let units ← separated operation (blank *> token ";")
  blank
  token ";" <|> pure ()
  return units.flatten

end RdfDataset.Sparql.Reader
