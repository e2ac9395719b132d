import RdfDataset.LanguageTag
import RdfDataset.Sparql.Conversion
import RdfDataset.Sparql.Name

/-!
# Literals

Strings in four kinds of quotes with an optional language tag or datatype, numbers, and the two
truth values. A number keeps its text as its value, and a string without datatype has that of
strings.
-/

set_option autoImplicit false

namespace RdfDataset.Sparql

inductive StandardDatatype where
  | string
  | boolean
  | integer
  | decimal
  | double
deriving DecidableEq

def StandardDatatype.iri : StandardDatatype → String
  | string => stringDatatype
  | boolean => "http://www.w3.org/2001/XMLSchema#boolean"
  | integer => "http://www.w3.org/2001/XMLSchema#integer"
  | decimal => "http://www.w3.org/2001/XMLSchema#decimal"
  | double => "http://www.w3.org/2001/XMLSchema#double"

namespace Parsed.Literal

def typed (value datatype : String) : Literal := ⟨value, none, datatype⟩

def plain (value : String) : Literal := typed value StandardDatatype.string.iri

def tagged (value language : String) : Literal :=
  ⟨value, some language, "http://www.w3.org/1999/02/22-rdf-syntax-ns#langString"⟩

end Parsed.Literal

namespace Reader

def escapedCharacter : Reader Char :=
  (do
    symbol "\\"
    match ← character fun _ => true with
    | 't' => return '\t'
    | 'b' => return '\x08'
    | 'n' => return '\n'
    | 'r' => return '\r'
    | 'f' => return '\x0c'
    | '"' => return '"'
    | '\x27' => return '\x27'
    | '\\' => return '\\'
    | _ => failure)
  <|> ofText (escapedCodePoint? codePoint?)

def shortString (quote : Char) : Reader (List Char) := do
  let _ ← character (· == quote)
  let value ← many
    (character (fun c => c != quote && c != '\\' && c != '\n' && c != '\r') <|> escapedCharacter)
  let _ ← character (· == quote)
  return value

def quotes (quote : Char) (count : Nat) : Reader (List Char) :=
  (List.replicate count quote).mapM fun q => character (· == q)

/-- A string between triple quote characters. Inside, up to two of them may stand in a row. -/
def longString (quote : Char) : Reader (List Char) := do
  let _ ← quotes quote 3
  let parts ← many do
    let inner ← quotes quote 2 <|> quotes quote 1 <|> pure []
    let next ← character (fun c => c != quote && c != '\\') <|> escapedCharacter
    return inner ++ [next]
  let _ ← quotes quote 3
  return parts.flatten

def string : Reader String := do
  let value ← oneOf [longString '\x27', longString '"', shortString '\x27', shortString '"']
  return String.ofList value

def languageTag : Reader String := do
  symbol "@"
  let first ← many1 (character Char.isAlpha)
  let more ← many do
    let hyphen ← character (· == '-')
    let subtag ← many1 (character Char.isAlphanum)
    return hyphen :: subtag
  let tag := (first ++ more.flatten).map Char.toLower
  guard (LanguageTag.isWellFormed tag)
  return String.ofList tag

def stringLiteral : Reader Parsed.Literal :=
  (do
    let value ← lexeme string
    token "^^"
    return .typed value (← iri))
  <|> (do
    let value ← lexeme string
    return .tagged value (← languageTag))
  <|> (.plain <$> string)

def digits1 : Reader (List Char) := many1 (character Char.isDigit)

def digits : Reader (List Char) := run Char.isDigit

def exponent : Reader (List Char) := do
  let mark ← character fun c => c == 'e' || c == 'E'
  let sign ← one (fun c => c == '+' || c == '-') <|> pure []
  return mark :: sign ++ (← digits1)

def dot : Reader (List Char) := one (· == '.')

/-- Digits on both sides of a dot, of which those in front of it may be missing. -/
def decimalDigits : Reader (List Char) := do
  return (← digits) ++ (← dot) ++ (← digits1)

/-- A number with an exponent. The digits on one side of a dot may be missing. -/
def doubleDigits : Reader (List Char) := oneOf
  [do return (← digits1) ++ (← dot) ++ (← digits) ++ (← exponent),
    do return (← dot) ++ (← digits1) ++ (← exponent),
    do return (← digits1) ++ (← exponent)]

def unsignedNumber : Reader (List Char × StandardDatatype) := oneOf
  [do return (← doubleDigits, .double), do return (← decimalDigits, .decimal),
    do return (← digits1, .integer)]

/-- A sign with the blanks behind it, which belong to the number. -/
def sign : Reader (List Char) := do
  let mark ← one fun c => c == '+' || c == '-'
  return mark ++ (← blankText)

def numberLiteral : Reader Parsed.Literal := do
  let sign ← sign <|> pure []
  let (number, datatype) ← unsignedNumber
  return .typed (String.ofList (sign ++ number)) datatype.iri

/-- The truth values, which are the only names that are literals. -/
def truthLiteral : Reader Parsed.Literal :=
  (symbol "true" *> pure (.typed "true" StandardDatatype.boolean.iri))
  <|> (symbol "false" *> pure (.typed "false" StandardDatatype.boolean.iri))

def literal : Reader Parsed.Literal := stringLiteral <|> numberLiteral <|> truthLiteral

end Reader

end RdfDataset.Sparql
