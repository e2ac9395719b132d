import RdfDataset.Sparql.Expression

/-!
# Select clauses

What a query keeps of its solutions, and how they are grouped, ordered and cut. A query is read up
to its pattern with the select clause open, so that an aggregate knows where it belongs; behind its
modifiers the clause is checked against the variables in scope.
-/

set_option autoImplicit false

namespace RdfDataset.Sparql.Reader

/-! ## Data blocks of queries -/

def dataValue : Reader Unit := oneOf [iri *> pure (), literal *> pure (), keyword "UNDEF"]

def singleColumn : Reader Scope := do
  let name ← lexeme variableName
  token "\x7b"
  let _ ← many (lexeme dataValue)
  symbol "\x7d"
  return [name]

/-- Several variables with rows of values, one value for each of them. -/
def manyColumns : Reader Scope := do
  token "("
  let names ← lexeme (many (lexeme variableName))
  token ")"
  token "\x7b"
  let rows ← many do
    token "("
    let row ← lexeme (many (lexeme dataValue))
    token ")"
    return row
  symbol "\x7d"
  guard (rows.all fun row => row.length == names.length)
  return names

def inlineData : Reader Scope := word "VALUES" *> (singleColumn <|> manyColumns)

/-! ## Subqueries -/

section Queries

variable (inner : Inner)

def selected : Reader Selected :=
  (.var <$> variableName)
  <|> (do
    token "("
    let e ← lexeme inner.expression
    word "AS"
    let name ← lexeme variableName
    symbol ")"
    return .value e name)

def selectClause : Reader Selection := do
  word "SELECT"
  openSelect
  word "DISTINCT" <|> word "REDUCED" <|> pure ()
  (symbol "*" *> pure .all) <|> (.members <$> many1 (lexeme (selected inner)))

def whereClause : Reader Scope := (word "WHERE" <|> pure ()) *> inner.group

/-- A condition by which solutions are grouped, as the variable it leaves in scope. A variable or
aggregate does not take the name that it is given. -/
def groupCondition : Reader Scope := oneOf
  [builtIn inner *> pure [], iriCall inner *> pure [],
    do
      token "("
      let e ← lexeme inner.expression
      let name ← optional (word "AS" *> lexeme variableName)
      symbol ")"
      match e with
      | .var name => return [name]
      | .aggregate => return []
      | .computed _ => return name.toList,
    do return [← variableName]]

def groupClause : Reader Scope := do
  word "GROUP"
  word "BY"
  return (← many1 (lexeme (groupCondition inner))).flatten

/-- Conditions on groups, which follow each other without blanks. -/
def havingClause : Reader Unit := do
  word "HAVING"
  let _ ← many1 (constraint inner)

def orderCondition : Reader Unit := oneOf
  [(word "ASC" <|> word "DESC") *> parenthesized inner *> pure (), constraint inner *> pure (),
    variableName *> pure ()]

def orderClause : Reader Unit := do
  word "ORDER"
  word "BY"
  let _ ← many1 (lexeme (orderCondition inner))

/-- A number of solutions. It has to fit into 64 bits. -/
def solutionCount : Reader Unit := do
  let count ← digits1
  guard ((count.foldl (fun n c => 10 * n + (c.toNat - '0'.toNat)) 0) < UInt64.size)

def sliceClause : Reader Unit :=
  let limit := word "LIMIT" *> solutionCount
  let offset := word "OFFSET" *> solutionCount
  (lexeme limit *> (offset <|> pure ())) <|> (lexeme offset *> (limit <|> pure ()))

def modifiers : Reader Modifiers := do
  let groups ← lexeme (optional (groupClause inner))
  lexeme (havingClause inner <|> pure ())
  lexeme (orderClause inner <|> pure ())
  lexeme (sliceClause <|> pure ())
  let values ← inlineData <|> pure []
  return { groups, values }

/-- Pattern and modifiers of a query, checked against its selection. -/
def queryBody (selection : Selection) (pattern : Reader Scope) : Reader Scope := do
  let pattern ← lexeme pattern
  let modifiers ← modifiers inner
  match modifiers.scope? selection (← closeSelect) pattern with
  | some scope => return scope
  | none => failure

def subquery : Reader Scope := do
  let selection ← lexeme (selectClause inner)
  queryBody inner selection (whereClause inner)

end Queries

end RdfDataset.Sparql.Reader
