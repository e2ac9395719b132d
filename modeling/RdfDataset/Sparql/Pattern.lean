import RdfDataset.Sparql.Select

/-!
# Patterns

Group graph patterns: blocks of triples, and parts that combine other groups. Of a group only its
variables in scope are kept. `Inner.upTo` ties groups and expressions together up to a given depth.
-/

set_option autoImplicit false

namespace RdfDataset.Sparql

namespace Reader

def tripleScope (triple : Triple (Option String)) : Scope :=
  triple.subject.vars ++ triple.verb.toList ++ triple.object.vars

def triplesBlock : Reader Scope := do
  return (← statements pathVerbs).flatMap tripleScope

section Groups

variable (inner : Inner)

/-- Groups with the word for their union between them. -/
def unionPart : Reader GroupPart := do
  return .join (← separated1 (lexeme inner.group) (word "UNION")).flatten

def optionalPart : Reader GroupPart := do
  word "OPTIONAL"
  return .join (← inner.group)

def minusPart : Reader GroupPart := do
  word "MINUS"
  let _ ← inner.group
  return .condition

def graphPart : Reader GroupPart := do
  word "GRAPH"
  let name ← lexeme variableOrIri
  return .join (name.vars ++ (← inner.group))

/-- A group that a service is asked for. The name of the service does not come into scope. -/
def servicePart : Reader GroupPart := do
  let service : Reader GroupPart := do
    let _ ← lexeme variableOrIri
    return .join (← inner.group)
  word "SERVICE"
  (word "SILENT" *> service) <|> service

def filterPart : Reader GroupPart := do
  word "FILTER"
  let _ ← constraint inner
  return .condition

def assignmentPart : Reader GroupPart := do
  word "BIND"
  token "("
  let _ ← lexeme inner.expression
  word "AS"
  let name ← lexeme variableName
  symbol ")"
  return .assign name

def groupPart : Reader GroupPart := oneOf
  [unionPart inner, optionalPart inner, minusPart inner, graphPart inner, servicePart inner,
    filterPart inner, assignmentPart inner, .join <$> inlineData]

/-- Blocks of triples and other parts. A dot may stand behind such a part. -/
def groupParts : Reader Scope := do
  let first ← lexeme (triplesBlock <|> pure [])
  let rest ← many do
    let part ← lexeme (groupPart inner)
    token "." <|> pure ()
    let triples ← lexeme (triplesBlock <|> pure [])
    return [part, .join triples]
  match groupScope? (.join first :: rest.flatten) with
  | some scope => return scope
  | none => failure

/-- A group graph pattern. Blank node labels of what surrounds it cannot be used in it, nor its own
labels behind it. -/
def group : Reader Scope :=
  let enclosed (content : Reader Scope) : Reader Scope := do
    token "\x7b"
    closeLabels
    let scope ← content
    closeLabels
    blank
    symbol "\x7d"
    return scope
  enclosed (groupParts inner) <|> enclosed (subquery inner)

end Groups

end Reader

namespace Inner

def upTo : Nat → Inner
  | 0 => ⟨failure, failure⟩
  | depth + 1 =>
    let inner := upTo depth
    ⟨Reader.expression inner, Reader.group inner⟩

end Inner

end RdfDataset.Sparql
