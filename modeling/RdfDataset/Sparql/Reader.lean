import RdfDataset.Sparql.Characters
import RdfDataset.Sparql.Consultation

/-!
# Readers

A reader takes something from the front of a request, or fails and takes nothing. Where there is a
choice the first reader that succeeds is taken, and the choice is not reconsidered. Besides the text
that is left, a reader knows the declarations of the request in front of it; what other labels stand
for has to be asked.

What a reader comes across, such as the label of a blank node, leaves a mark. Marks stay where the
reader fails, so that a text which is read a second time meets those of the first time.

Repetitions are bounded by the length of the text that is left: every round takes at least one
character, so that the bound is never met.
-/

set_option autoImplicit false

namespace RdfDataset.Sparql

/-- How far a request has been read, and what the rest is to be read under. -/
structure Cursor where
  rest : List Char
  base : Option String
  /-- The namespaces that the request has declared, the latest first. -/
  spaces : List (String × String)
  anonymous : Nat

/-- What readers of a request have met so far, also those that failed. -/
structure Marks where
  openLabels : List String
  /-- Labels of blank nodes that belong to an earlier group and cannot be used again. -/
  closedLabels : List String
  /-- For every select clause whose query is being read, innermost first, whether an aggregate
  occurred. -/
  aggregates : List Bool

/-- Reads an `α` from the front of the text. A failure keeps the marks and nothing else. -/
abbrev Reader := StateT Cursor (OptionT (StateT Marks Consultation))

namespace Cursor

def start (text : List Char) (base : Option String) : Cursor :=
  { rest := text, base, spaces := [], anonymous := 0 }

end Cursor

namespace Marks

def none : Marks := { openLabels := [], closedLabels := [], aggregates := [] }

end Marks

namespace Reader

variable {α β : Type}

def ofText (step : List Char → Option (α × List Char)) : Reader α := do
  match step (← get).rest with
  | some (a, rest) =>
    modify fun cursor => { cursor with rest }
    return a
  | none => failure

/-- What is read, if anything, and the marks that stay. -/
def outcome (reader : Reader α) (cursor : Cursor) (marks : Marks) :
    Consultation (Option (α × Cursor) × Marks) :=
  (reader.run cursor).run.run marks

/-- Reads a whole text. -/
def run? (reader : Reader α) (text : List Char) (base : Option String) :
    Consultation (Option (α × Cursor)) := do
  let (answer, _) ← reader.outcome (.start text base) .none
  return answer.filter fun (_, cursor) => cursor.rest.isEmpty

def character (allowed : Char → Bool) : Reader Char := ofText fun
  | c :: rest => if allowed c then some (c, rest) else none
  | [] => none

/-- Drops a text from the front of another one, comparing character by character. -/
def dropText (same : Char → Char → Bool) : List Char → List Char → Option (List Char)
  | [], rest => some rest
  | _ :: _, [] => none
  | a :: expected, b :: rest => if same a b then dropText same expected rest else none

def symbol (expected : String) : Reader Unit := ofText fun text =>
  (dropText (· == ·) expected.toList text).map ((), ·)

/-- A keyword in any case. What follows it does not matter, not even a letter. -/
def keyword (expected : String) : Reader Unit := ofText fun text =>
  (dropText (fun a b => a.toLower == b.toLower) expected.toList text).map ((), ·)

def run (allowed : Char → Bool) : Reader (List Char) := ofText fun text =>
  some (text.span allowed)

def upTo (reader : Reader α) : Nat → Reader (List α)
  | 0 => pure []
  | bound + 1 =>
    (do
      let first ← reader
      let rest ← upTo reader bound
      return first :: rest)
    <|> pure []

def many (reader : Reader α) : Reader (List α) := do
  upTo reader (← get).rest.length

def exactly (reader : Reader α) : Nat → Reader (List α)
  | 0 => pure []
  | count + 1 => do
    let first ← reader
    let rest ← exactly reader count
    return first :: rest

def many1 (reader : Reader α) : Reader (List α) := do
  let first ← reader
  let rest ← many reader
  return first :: rest

def separated1 (reader : Reader α) (separator : Reader β) : Reader (List α) := do
  let first ← reader
  let rest ← many (separator *> reader)
  return first :: rest

def separated (reader : Reader α) (separator : Reader β) : Reader (List α) :=
  separated1 reader separator <|> pure []

def oneOf (readers : List (Reader α)) : Reader α := readers.foldr (· <|> ·) failure

/-- Succeeds without taking anything if the next character is of no such class. -/
def notNext (refused : Char → Bool) : Reader Unit := do
  match (← get).rest with
  | c :: _ => guard (!refused c)
  | [] => pure ()

/-- The blanks at the front of a text: gaps, and comments from `#` to the end of the line. -/
def spanBlank (inComment : Bool) : List Char → List Char × List Char
  | [] => ([], [])
  | c :: rest =>
    let taken (inComment : Bool) : List Char × List Char :=
      let (run, rest) := spanBlank inComment rest
      (c :: run, rest)
    if inComment then taken (c != '\r' && c != '\n')
    else if isGap c then taken false
    else if c = '#' then taken true
    else ([], c :: rest)

/-- Blanks between tokens, as they are written. -/
def blankText : Reader (List Char) := ofText fun text => some (spanBlank false text)

def blank : Reader Unit := do
  let _ ← blankText

def lexeme (reader : Reader α) : Reader α := do
  let a ← reader
  blank
  return a

def token (expected : String) : Reader Unit := lexeme (symbol expected)

def word (expected : String) : Reader Unit := lexeme (keyword expected)

end Reader

end RdfDataset.Sparql
