import RdfDataset.Failure
import RdfDataset.Namespace
import RdfDataset.Options
import RdfDataset.Order

/-!
# Lexicon entries

A term is stored under its entry: the text of a URI, or the canonical text of a literal. URIs and
literals are kept apart, so that equal texts of different kinds are different entries. Two terms
with the same entry are the same term for the dataset.

The canonical text of a literal is

* `"value"^^<datatype>` if it has a datatype, whatever its language tag is,
* `value@language` if it has a language tag only,
* its value otherwise.
-/

set_option autoImplicit false

namespace RdfDataset

open Std

/-- What the lexicon knows a term by. -/
inductive Entry where
  | uri (text : String)
  | literal (text : String)
deriving DecidableEq

namespace Entry

def text : Entry → String
  | uri text => text
  | literal text => text

def isLiteral : Entry → Bool
  | uri _ => false
  | literal _ => true

/-- URIs are shown in angle brackets, literals as their canonical text. -/
def render : Entry → String
  | uri text => bracketed text
  | literal text => text

/-- URIs come before literals; within a kind the texts decide. -/
instance : Ord Entry where
  compare := compareLex (compareOn isLiteral) (compareOn text)

instance : TransOrd Entry :=
  inferInstanceAs (TransCmp (compareLex (compareOn isLiteral) (compareOn text)))

instance : LawfulEqOrd Entry where
  eq_of_compare {a b} h := by
    obtain ⟨kind, same⟩ := compareLex_eq_eq h
    have kind : a.isLiteral = b.isLiteral := LawfulEqOrd.eq_of_compare kind
    have same : a.text = b.text := LawfulEqOrd.eq_of_compare same
    cases a <;> cases b <;> simp_all [isLiteral, Entry.text]

end Entry

namespace Literal

def typedText (value datatype : String) : String := "\"" ++ value ++ "\"^^<" ++ datatype ++ ">"

def taggedText (value language : String) : String := value ++ "@" ++ language

/-- The namespace of a datatype's label. Only the strict policy refuses a label without one. -/
def datatypeSpace (policy : DatatypePolicy) (env : Namespaces) (label : String) :
    Except NormalizationError String :=
  match env.resolve? label, policy with
  | some space, _ => .ok space
  | none, .strict => .error (.unresolvedPrefix label)
  | none, .lenient => .ok ""

def storedLanguage (source : LanguageSource) (literal : Literal) : Option String :=
  match source with
  | .language => literal.language
  | .lexicalValue => some literal.value

def canonical (options : LiteralOptions) (env : Namespaces) (literal : Literal) :
    Except NormalizationError String :=
  match literal.datatype with
  | some (.absolute text) => .ok (typedText literal.value text)
  | some (.resolved text) => .ok (typedText literal.value text)
  | some (.prefixed label suffix) =>
    (datatypeSpace options.datatypePolicy env label).map fun space =>
      typedText literal.value (space ++ suffix)
  | none =>
    match literal.storedLanguage options.languageSource with
    | none => .ok literal.value
    | some language => .ok (taggedText literal.value language)

end Literal

namespace Term

/-- The entry of a term. It depends on the declared namespaces and the literal options, but on no
lexicon. Blank nodes have none. -/
def entry (options : LiteralOptions) (env : Namespaces) (term : Term) :
    Except NormalizationError Entry :=
  match term with
  | .uri (.absolute text) => .ok (.uri text)
  | .uri (.prefixed label suffix) =>
    match env.resolve? label with
    | some space => .ok (.uri (space ++ suffix))
    | none => .error (.unresolvedPrefix label)
  | .literal written => (written.canonical options env).map .literal
  | .blankNode label => .error (.unsupportedTermKind (blankNode label).kind)

end Term

end RdfDataset
