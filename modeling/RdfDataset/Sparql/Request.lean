import RdfDataset.Dispatch
import RdfDataset.Options
import RdfDataset.Sparql.Conversion
import RdfDataset.Sparql.Grammar
import RdfDataset.Sparql.QueryForm

/-!
# Reading of requests

A request text is read under options: a base IRI and prefixes, which are declared in front of every
request as if they were part of its text. The options are checked once; the text is then taken for a
query if the library says so, and for an update otherwise. The units of an update stay as the
library gives them until they are executed.
-/

set_option autoImplicit false

namespace RdfDataset

/-- The same reader, which turns all units of a text into operations at once. -/
def RequestReader.materialized {υ : Type} (reader : RequestReader υ) : RequestReader Operation where
  tree text := do
    let tree ← reader.tree text
    return { tree with units := ← tree.units.mapM reader.operation }
  operation := .ok

namespace Sparql

/-- The declaration of a prefix, on a line of its own. -/
def declarationLine (label iri : String) : String := "PREFIX " ++ label ++ ": <" ++ iri ++ ">\n"

def declarations (options : TextOptions) : String :=
  String.join (options.prefixes.map fun (label, iri) => declarationLine label iri)

/-- The prologue that is reported for a request: the configured prefixes, and the base in force. -/
def reportedPrologue (options : TextOptions) (base : Option String) : Prologue :=
  { base := base.or options.base, prefixes := options.prefixes }

def intendedGrammar (text : String) : Grammar :=
  if hasQueryForm text.toList then .query else .update

section Reading

variable (library : Library) (options : TextOptions)

/-- Checks the prefix of a declaration. Its label is not looked at. -/
def checkPrefix (declaration : String × String) : Except ParseError Unit :=
  if library.isIri declaration.2 then pure ()
  else throw (.invalidPrefix declaration.1 declaration.2)

/-- Checks options: the base first, then the prefixes in their order. -/
def checkOptions : Except ParseError Unit := do
  if let some base := options.base then
    if !library.isIri base then throw (.invalidBaseIri base)
  options.prefixes.forM (checkPrefix library)

def readTree (text : String) : Except ParseError (RequestTree Parsed.Operation) :=
  let whole := declarations options ++ text
  if library.isQuery options.base whole then .ok (.query (reportedPrologue options none))
  else
    match library.update? options.base whole with
    | some update => .ok (.update (reportedPrologue options update.base) update.operations)
    | none => .error (.malformed (intendedGrammar text))

/-- The reader of request texts under options. -/
def reader : RequestReader Parsed.Operation :=
  { tree := readTree library options, operation := Parsed.Operation.convert }

end Reading

def reader? (options : TextOptions) (library : Library := grammar) :
    Except ParseError (RequestReader Operation) := do
  checkOptions library options
  return (reader library options).materialized

end Sparql

end RdfDataset
