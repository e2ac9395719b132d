/-!
# Scope

A query may use its variables only where they are in scope. A pattern brings variables into scope;
an assignment must not name one that is there already; and once solutions are grouped, only the
variables of the groups are left. Main definition: the scope that a select clause leaves, if the
clause is admissible.
-/

set_option autoImplicit false

namespace RdfDataset.Sparql

/-- The variables in scope. Their order and repetitions do not matter. -/
abbrev Scope := List String

inductive Expression where
  | var (name : String)
  /-- The expression is an aggregate, which has no name but is in scope wherever it can stand. -/
  | aggregate
  | computed (needed : List String)

namespace Expression

def needed : Expression → List String
  | var name => [name]
  | aggregate => []
  | computed needed => needed

def of (parts : List Expression) : Expression := computed (parts.flatMap needed)

def tolerant : Expression := computed []

def isBound (scope : Scope) (expression : Expression) : Bool :=
  expression.needed.all scope.contains

end Expression

inductive Selected where
  | var (name : String)
  | value (expression : Expression) (name : String)
  | unnamed

inductive Selection where
  /-- The solutions as they are, where a form of query has no select clause. -/
  | untouched
  | all
  | members (chosen : List Selected)

namespace Selection

/-- Goes through a select clause, with the names taken so far. Variables and values of grouped
solutions have to be in scope, where a name given in the clause itself is not. No name can be given
twice. -/
def project (grouped : Bool) (scope : Scope) : List String → List Selected → Option Scope
  | taken, [] => some taken
  | taken, .var name :: rest =>
    if (grouped && !scope.contains name) || taken.contains name then none
    else project grouped scope (name :: taken) rest
  | taken, .value expression name :: rest =>
    if scope.contains name || (grouped && !expression.isBound scope) || taken.contains name then
      none
    else project grouped scope (name :: taken) rest
  | taken, .unnamed :: rest => project grouped scope taken rest

def scope? (grouped : Bool) (scope : Scope) : Selection → Option Scope
  | untouched => some scope
  | all => if grouped then none else some scope
  | members chosen => project grouped scope [] chosen

end Selection

/-- What follows the pattern of a query: the variables by which solutions are grouped, where they
are, and the variables of a final data block. -/
structure Modifiers where
  groups : Option Scope
  values : Scope

namespace Modifiers

/-- The scope of a query as a whole. An aggregate groups all solutions together where nothing else
is said. -/
def scope? (modifiers : Modifiers) (selection : Selection) (aggregated : Bool) (pattern : Scope) :
    Option Scope :=
  let grouped := modifiers.groups.isSome || aggregated
  let scope := if grouped then modifiers.groups.getD [] else pattern
  selection.scope? grouped (scope ++ modifiers.values)

end Modifiers

/-- A part of a group takes the scope of the parts before it to the scope behind it. It fails if it
assigns to a variable that is in scope. -/
abbrev GroupPart := Scope → Option Scope

namespace GroupPart

def join (pattern : Scope) : GroupPart := fun scope => some (scope ++ pattern)

def condition : GroupPart := some

def assign (name : String) : GroupPart := fun scope =>
  if scope.contains name then none else some (name :: scope)

end GroupPart

def groupScope? (parts : List GroupPart) : Option Scope :=
  parts.foldlM (fun scope part => part scope) []

end RdfDataset.Sparql
