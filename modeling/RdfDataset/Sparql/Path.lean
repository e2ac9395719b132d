import RdfDataset.Sparql.Data

/-!
# Property paths

The verbs of patterns: a variable, or an expression over IRIs that describes a path. Of a path only
its form matters here.
-/

set_option autoImplicit false

namespace RdfDataset.Sparql.Reader

def pathIri : Reader Unit := (iri *> pure ()) <|> symbol "a"

def directedIri : Reader Unit := (token "^" *> pathIri) <|> pathIri

/-- The IRIs that a step must not be: one, or several of them in parentheses. -/
def excludedIris : Reader Unit :=
  (do
    token "("
    let _ ← separated1 (lexeme directedIri) (token "|")
    symbol ")")
  <|> directedIri

def pathPrimary (inner : Reader Unit) : Reader Unit := oneOf
  [pathIri, token "!" *> excludedIris, token "(" *> lexeme inner *> symbol ")"]

/-- How often a step is taken. A question mark with a letter behind it is a variable. -/
def repetition : Reader Unit := oneOf
  [symbol "*", symbol "+", symbol "?" *> notNext isVariableStart]

def pathStep (inner : Reader Unit) : Reader Unit := do
  pathPrimary inner
  (blank *> repetition) <|> pure ()

def path : Nat → Reader Unit
  | 0 => failure
  | depth + 1 => do
    let step := (token "^" *> pathStep (path depth)) <|> pathStep (path depth)
    let sequence := separated1 (lexeme step) (token "/")
    let _ ← separated1 (lexeme sequence) (token "|")

/-- The verbs of patterns. Of a verb only its variable is kept. -/
def pathVerbs : Verbs (Option String) where
  read := (do
      path (← get).rest.length
      return none)
    <|> (some <$> variableName)
  iri := fun _ => none

end RdfDataset.Sparql.Reader
