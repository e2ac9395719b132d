import RdfDataset.Sparql.Path
import RdfDataset.Sparql.Scope

/-!
# Expressions

Expressions, group graph patterns and subqueries contain each other. All of them are read for what
the checks on queries need: of an expression the variables that it needs, of a pattern the variables
that it brings into scope. `Inner` holds the readers for what stands one level deeper, so that no
reader calls itself.
-/

set_option autoImplicit false

namespace RdfDataset.Sparql

/-- The readers for what stands one level deeper. -/
structure Inner where
  expression : Reader Expression
  group : Reader Scope

inductive Arguments where
  /-- One of some numbers of expressions. They are tried in this order. -/
  | counted (counts : List Nat)
  | any
  | oneVariable

def functions : List (String × Arguments) :=
  let taking (counts : List Nat) (names : List String) : List (String × Arguments) :=
    names.map fun name => (name, .counted counts)
  taking [0] ["rand", "now", "uuid", "struuid"]
  ++ taking [1, 0] ["bnode"]
  ++ taking [1]
    ["str", "lang", "datatype", "iri", "uri", "abs", "ceil", "floor", "round", "strlen", "ucase",
      "lcase", "encode_for_uri", "year", "month", "day", "hours", "minutes", "seconds", "timezone",
      "tz", "md5", "sha1", "sha256", "sha384", "sha512", "isiri", "isuri", "isblank", "isliteral",
      "isnumeric"]
  ++ taking [2]
    ["langmatches", "contains", "strstarts", "strends", "strbefore", "strafter", "strlang", "strdt",
      "sameterm"]
  ++ taking [3, 2] ["substr", "regex"]
  ++ taking [3] ["if"]
  ++ taking [4, 3] ["replace"]
  ++ [("concat", .any), ("coalesce", .any), ("bound", .oneVariable)]

/-- The functions whose arguments follow the name without a blank. -/
def tightFunctions : List String :=
  ["bnode", "coalesce", "concat", "encode_for_uri", "md5", "sha1", "sha256", "sha384", "sha512",
    "sameterm", "isblank", "isliteral", "isnumeric"]

def tolerantFunctions : List String := ["bound", "coalesce"]

def valueAggregates : List String := ["sum", "min", "max", "avg", "sample"]

namespace Reader

/-! ## Select clauses being read -/

/-- A select clause begins; no aggregate has been seen. -/
def openSelect : Reader Unit := modifyThe Marks fun marks =>
  { marks with aggregates := false :: marks.aggregates }

/-- A query ends. Tells whether an aggregate was seen since its select clause. -/
def closeSelect : Reader Bool := modifyGetThe Marks fun marks =>
  (marks.aggregates.headD false, { marks with aggregates := marks.aggregates.drop 1 })

/-- An aggregate belongs to the innermost select clause. Without one there is no place for it. -/
def markAggregate : Reader Unit := do
  match (← getThe Marks).aggregates with
  | _ :: rest => modifyThe Marks fun marks => { marks with aggregates := true :: rest }
  | [] => failure

/-! ## Expressions -/

section Expressions

variable (inner : Inner)

def parenthesized : Reader Expression := do
  token "("
  let e ← lexeme inner.expression
  symbol ")"
  return e

def expressionList1 : Reader (List Expression) := do
  token "("
  let es ← separated1 (lexeme inner.expression) (token ",")
  symbol ")"
  return es

def expressionList : Reader (List Expression) :=
  (emptyPair "(" ")" *> pure []) <|> expressionList1 inner

def expressions (count : Nat) : Reader (List Expression) :=
  match count with
  | 0 => emptyPair "(" ")" *> pure []
  | more + 1 => do
    token "("
    let first ← lexeme inner.expression
    let rest ← exactly (token "," *> lexeme inner.expression) more
    symbol ")"
    return first :: rest

def functionName : Reader String := do
  let name ← run fun c => c.isAlphanum || c == '_'
  return String.ofList (name.map Char.toLower)

def arguments : Arguments → Reader (List Expression)
  | .any => expressionList inner
  | .oneVariable => do
    token "("
    let name ← lexeme variableName
    symbol ")"
    return [.var name]
  | .counted counts => oneOf (counts.map (expressions inner))

def functionCall : Reader Expression := do
  let name ← functionName
  if !tightFunctions.contains name then blank
  match functions.lookup name with
  | some expected =>
    let es ← arguments inner expected
    return if tolerantFunctions.contains name then .tolerant else .of es
  | none => failure

def aggregated (arguments : List (Reader Unit)) : Reader Unit := oneOf <|
  (arguments.map (word "DISTINCT" *> ·) ++ arguments).map fun argument => do
    token "("
    lexeme argument
    symbol ")"

def aggregatedValue : Reader Unit := inner.expression *> pure ()

def separatorClause : Reader Unit := do
  token ";"
  word "SEPARATOR"
  token "="
  let _ ← string

def standardAggregate : Reader Unit := do
  let name ← lexeme functionName
  if name = "count" then aggregated [symbol "*", aggregatedValue inner]
  else if name = "group_concat" then
    aggregated [lexeme (aggregatedValue inner) *> separatorClause, aggregatedValue inner]
  else do
    guard (valueAggregates.contains name)
    aggregated [aggregatedValue inner]

/-- Any IRI can stand for an aggregate of a single value. -/
def iriAggregate : Reader Unit := lexeme iri *> aggregated [aggregatedValue inner]

/-- An aggregate. Its value belongs to the group, whatever it was taken over. -/
def aggregate : Reader Expression := do
  standardAggregate inner <|> iriAggregate inner
  markAggregate
  return .aggregate

def existence : Reader Expression := do
  (word "NOT" *> word "EXISTS") <|> word "EXISTS"
  let _ ← inner.group
  return .tolerant

def builtIn : Reader Expression := oneOf [aggregate inner, functionCall inner, existence inner]

def iriCall : Reader Expression := do
  let _ ← lexeme iri
  return .of (← expressionList inner)

def iriOrCall : Reader Expression := do
  let _ ← lexeme iri
  return .of ((← optional (expressionList inner)).getD [])

def primary : Reader Expression := oneOf
  [parenthesized inner, iriOrCall inner, .var <$> variableName, literal *> pure (.of []),
    builtIn inner]

def signed : Reader Expression :=
  (do
    let _ ← lexeme (character fun c => c == '!' || c == '+' || c == '-')
    return .of [← primary inner])
  <|> primary inner

def chain (operand : Reader Expression) (operator : Reader Unit) : Reader Expression := do
  match ← separated1 (lexeme operand) (lexeme operator) with
  | [single] => return single
  | operands => return .of operands

def numeric : Reader Expression :=
  chain (chain (signed inner) (symbol "*" <|> symbol "/")) (symbol "+" <|> symbol "-")

def comparison : Reader (List Expression) := oneOf
  [do
      oneOf (["=", "!=", ">=", ">", "<=", "<"].map token)
      return [← numeric inner],
    word "IN" *> expressionList inner,
    word "NOT" *> word "IN" *> expressionList inner]

def relational : Reader Expression := do
  let left ← lexeme (numeric inner)
  match ← optional (comparison inner) with
  | some right => return .of (left :: right)
  | none => return left

def expression : Reader Expression :=
  chain (chain (relational inner) (symbol "&&")) (symbol "||")

def constraint : Reader Expression := oneOf [parenthesized inner, iriCall inner, builtIn inner]

end Expressions

end Reader

end RdfDataset.Sparql
