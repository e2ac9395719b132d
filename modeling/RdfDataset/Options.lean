/-!
# Options

How literals become lexicon entries, and under which base and prefixes texts are read. Options are
values; nothing is checked until a reader is made from them.
-/

set_option autoImplicit false

namespace RdfDataset

/-- Where the language tag of a literal without datatype is taken from. Old stores took the value
itself, so that `v` was stored as `v@v`. -/
inductive LanguageSource where
  | language
  | lexicalValue
deriving DecidableEq

/-- What becomes of an abbreviated datatype whose label is not declared: a failure, or the suffix
alone. -/
inductive DatatypePolicy where
  | strict
  | lenient
deriving DecidableEq

structure LiteralOptions where
  languageSource : LanguageSource := .language
  datatypePolicy : DatatypePolicy := .strict
deriving DecidableEq

/-- The base IRI and the prefixes in force at the start of every text. -/
structure TextOptions where
  base : Option String := none
  prefixes : List (String × String) := []
deriving DecidableEq

namespace TextOptions

def withBase (options : TextOptions) (base : String) : TextOptions :=
  { options with base := some base }

def declare (options : TextOptions) (label iri : String) : TextOptions :=
  { options with prefixes := options.prefixes ++ [(label, iri)] }

end TextOptions

structure Options where
  literals : LiteralOptions := {}
  texts : TextOptions := {}
deriving DecidableEq

inductive OptionChange where
  | base (iri : String)
  | declare (label iri : String)
  | languageSource (source : LanguageSource)
  | datatypePolicy (policy : DatatypePolicy)
  | texts (options : TextOptions)
  | literals (options : LiteralOptions)
deriving DecidableEq

namespace Options

/-- Every change leaves all other options as they are. -/
def apply (options : Options) : OptionChange → Options
  | .base iri => { options with texts := options.texts.withBase iri }
  | .declare label iri => { options with texts := options.texts.declare label iri }
  | .languageSource source =>
    { options with literals := { options.literals with languageSource := source } }
  | .datatypePolicy policy =>
    { options with literals := { options.literals with datatypePolicy := policy } }
  | .texts texts => { options with texts := texts }
  | .literals literals => { options with literals := literals }

def states (options : Options) : List OptionChange → List Options
  | [] => [options]
  | change :: rest => options :: states (options.apply change) rest

end Options

end RdfDataset
