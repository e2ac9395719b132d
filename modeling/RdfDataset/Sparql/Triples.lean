import RdfDataset.Sparql.Node

/-!
# Triples

A statement is a subject with verbs and objects. Brackets stand for a blank node with statements of
its own, parentheses for a list of nodes. What stands in them is put out before the triples of the
statement that uses it; the objects of a verb follow each other without a break.

Data and patterns differ in their verbs, so everything here is read for any kind `π` of verbs.
-/

set_option autoImplicit false

namespace RdfDataset.Sparql

structure Triple (π : Type) where
  subject : Node
  verb : π
  object : Node

structure Verbs (π : Type) where
  read : Reader π
  iri : String → π

structure Nested (π : Type) where
  node : Node
  triples : List (Triple π) := []

/-- Verbs with their objects, and the triples that stand in the objects. -/
structure Properties (π : Type) where
  pairs : List (π × Node)
  nested : List (Triple π)

namespace Properties

variable {π : Type}

def none : Properties π := { pairs := [], nested := [] }

/-- All triples of a subject: the nested ones come first. -/
def about (properties : Properties π) (subject : Node) : List (Triple π) :=
  properties.nested ++ properties.pairs.map fun (verb, object) => ⟨subject, verb, object⟩

def ofObjects (verb : π) (objects : List (Nested π)) : Properties π where
  pairs := objects.map fun object => (verb, object.node)
  nested := objects.flatMap Nested.triples

def concat (groups : List (Properties π)) : Properties π where
  pairs := groups.flatMap pairs
  nested := groups.flatMap nested

end Properties

/-- The list of some nodes, with cells named by `labels`. The cells are put out from the last to the
first: its item, the cell behind it, and then what stands in the item. -/
def listOf {π : Type} (verbs : Verbs π) : List (String × Nested π) → Nested π
  | [] => { node := Reader.nil }
  | (label, item) :: rest =>
    let behind := listOf verbs rest
    let cell := Node.blank label
    { node := cell
      triples := behind.triples
        ++ [⟨cell, verbs.iri Vocabulary.first.iri, item.node⟩,
          ⟨cell, verbs.iri Vocabulary.rest.iri, behind.node⟩]
        ++ item.triples }

namespace Reader

variable {π : Type}

def objects (verbs : Verbs π) (object : Reader (Nested π)) : Reader (Properties π) := do
  let verb ← lexeme verbs.read
  let objects ← separated1 (lexeme object) (token ",")
  return .ofObjects verb objects

/-- Verbs with their objects, with semicolons between them. Semicolons may be repeated. -/
def properties (verbs : Verbs π) (object : Reader (Nested π)) : Reader (Properties π) := do
  let first ← lexeme (objects verbs object)
  let more ← many do
    token ";"
    lexeme (objects verbs object) <|> pure .none
  return .concat (first :: more)

def nodeList (verbs : Verbs π) (object : Reader (Nested π)) : Reader (Nested π) := do
  token "("
  let items ← many1 do
    let item ← lexeme object
    return (← freshLabel, item)
  symbol ")"
  return listOf verbs items

def bracketed (verbs : Verbs π) (object : Reader (Nested π)) : Reader (Nested π) := do
  token "["
  let properties ← lexeme (properties verbs object)
  symbol "]"
  let node := Node.blank (← freshLabel)
  return { node, triples := properties.about node }

def complexNode (verbs : Verbs π) (object : Reader (Nested π)) : Reader (Nested π) :=
  nodeList verbs object <|> bracketed verbs object

def node (verbs : Verbs π) : Nat → Reader (Nested π)
  | 0 => failure
  | depth + 1 =>
    (do return { node := ← simpleNode }) <|> complexNode verbs (node verbs depth)

def anyNode (verbs : Verbs π) : Reader (Nested π) := do
  node verbs (← get).rest.length

/-- A subject with its properties. Only a subject with statements of its own can do without. -/
def statement (verbs : Verbs π) : Reader (List (Triple π)) :=
  (do
    let subject ← lexeme simpleNode
    let properties ← properties verbs (anyNode verbs)
    return properties.about subject)
  <|> (do
    let subject ← lexeme (complexNode verbs (anyNode verbs))
    let properties ← properties verbs (anyNode verbs) <|> pure .none
    return subject.triples ++ properties.about subject.node)

/-- Statements with dots between them. One more dot may follow. -/
def statements (verbs : Verbs π) : Reader (List (Triple π)) := do
  let groups ← separated1 (blank *> lexeme (statement verbs)) (symbol ".")
  token "." <|> pure ()
  return groups.flatten

end Reader

end RdfDataset.Sparql
