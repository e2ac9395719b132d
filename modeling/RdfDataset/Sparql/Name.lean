import RdfDataset.Iri.Resolution
import RdfDataset.Sparql.Reader

/-!
# Names

IRIs in angle brackets, names abbreviated by a namespace label, variables, and the labels of blank
nodes. An IRI may contain code points as `\u` or `\U` with a number of four or eight characters;
what an abbreviated name stands for has to be an IRI as well.
-/

set_option autoImplicit false

namespace RdfDataset.Sparql

open Iri (isHexDigit)

def hexValue (c : Char) : Nat :=
  if c.isDigit then c.toNat - '0'.toNat else 10 + (c.toLower.toNat - 'a'.toNat)

def hexNumber (digits : List Char) : Nat := digits.foldl (fun n c => 16 * n + hexValue c) 0

/-- The character with a code point given by hexadecimal digits. Surrogates and numbers beyond the
last code point have none. -/
def codePoint? (digits : List Char) : Option Char :=
  if !digits.isEmpty && digits.all isHexDigit && Nat.isValidChar (hexNumber digits) then
    some (Char.ofNat (hexNumber digits))
  else none

/-- The same, where the digits may have a plus sign. -/
def signedCodePoint? : List Char → Option Char
  | '+' :: digits => codePoint? digits
  | digits => codePoint? digits

def numbered? (codePoint? : List Char → Option Char) (count : Nat) (text : List Char) :
    Option (Char × List Char) :=
  if count ≤ text.length then (codePoint? (text.take count)).map (·, text.drop count) else none

def escapedCodePoint? (codePoint? : List Char → Option Char) :
    List Char → Option (Char × List Char)
  | '\\' :: 'u' :: rest => numbered? codePoint? 4 rest
  | '\\' :: 'U' :: rest => numbered? codePoint? 8 rest
  | _ => none

/-- Replaces all code points given by number. What looks like one but is none stays as it is. -/
def decodeCodePoints (text : List Char) : List Char := go text.length text
where
  go : Nat → List Char → List Char
    | 0, _ => []
    | _, [] => []
    | bound + 1, c :: rest =>
      match escapedCodePoint? signedCodePoint? (c :: rest) with
      | some (decoded, rest) => decoded :: go bound rest
      | none => c :: go bound rest

namespace Reader

/-- An IRI in angle brackets, read relative to the base in force. A backslash that starts no code
point stays, and no IRI contains one. -/
def iriReference : Reader String := do
  symbol "<"
  let text ← run (· ≠ '>')
  symbol ">"
  match Iri.resolve? (← get).base (String.ofList (decodeCodePoints text)) with
  | some iri => return iri
  | none => failure

def dotGroup (item : Reader (List Char)) : Reader (List Char) := do
  let dots ← many1 (character (· == '.'))
  let items ← many1 item
  return dots ++ items.flatten

/-- Groups of items that are separated by dots. The last character is no dot. -/
def dotted (item : Reader (List Char)) : Reader (List Char) := do
  let first ← many item
  let groups ← many (dotGroup item)
  return first.flatten ++ groups.flatten

def one (allowed : Char → Bool) : Reader (List Char) := do
  return [← character allowed]

def spaceLabel : Reader String := do
  let label ← (do
      let first ← character isNameStart
      let rest ← dotted (one isNameCharacter)
      return first :: rest)
    <|> pure []
  symbol ":"
  return String.ofList label

/-- A percent sign with two hexadecimal digits stays as it is; a backslash is dropped. -/
def localEscape : Reader (List Char) :=
  (do
    let percent ← character (· == '%')
    let high ← character isHexDigit
    let low ← character isHexDigit
    return [percent, high, low])
  <|> (symbol "\\" *> one isEscapable)

def localItem : Reader (List Char) :=
  one (fun c => isNameCharacter c || c == ':') <|> localEscape

/-- The part of an abbreviated name behind the colon. It can contain dots in one place only. -/
def localName : Reader String := do
  let first ← one (fun c => isVariableStart c || c == ':') <|> localEscape
  let rest ← many localItem
  let group ← dotGroup localItem <|> pure []
  return String.ofList (first ++ rest.flatten ++ group)

/-- The namespace of a label. It is asked for if the request has not declared it. -/
def space (label : String) : Reader String := do
  match (← get).spaces.lookup label with
  | some space => return space
  | none =>
    match ← Consultation.space? label with
    | some space => return space
    | none => failure

/-- An abbreviated name, whose local part may be empty. -/
def abbreviatedName : Reader String :=
  (do
    let label ← spaceLabel
    let suffix ← localName
    let iri := (← space label) ++ suffix
    guard (Iri.isIri iri)
    return iri)
  <|> (do space (← spaceLabel))

def iri : Reader String := iriReference <|> abbreviatedName

def variableName : Reader String := do
  symbol "?" <|> symbol "$"
  let first ← character isVariableStart
  let rest ← run isVariableCharacter
  return String.ofList (first :: rest)

/-- The label of a blank node. Labels cannot be shared with an earlier group. -/
def blankLabel : Reader String := do
  symbol "_:"
  let first ← character isVariableStart
  let rest ← dotted (one isNameCharacter)
  let label := String.ofList (first :: rest)
  guard (!(← getThe Marks).closedLabels.contains label)
  modifyThe Marks fun marks => { marks with openLabels := label :: marks.openLabels }
  return label

/-- A label for a blank node without one. No label in a text starts with a bracket. -/
def freshLabel : Reader String := modifyGet fun cursor =>
  ("[" ++ Nat.repr cursor.anonymous ++ "]", { cursor with anonymous := cursor.anonymous + 1 })

/-- Closes the labels used so far: the next group has to use others. -/
def closeLabels : Reader Unit := modifyThe Marks fun marks =>
  { marks with closedLabels := marks.openLabels ++ marks.closedLabels, openLabels := [] }

def forgetLabels : Reader Unit := modifyThe Marks fun marks =>
  { marks with closedLabels := [], openLabels := [] }

end Reader

end RdfDataset.Sparql
