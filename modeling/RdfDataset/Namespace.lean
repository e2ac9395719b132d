import Std.Data.ExtTreeMap
import RdfDataset.Request

/-!
# Namespaces

The namespaces that are in force while a request is executed. An environment is its lookup function:
two environments are equal exactly if they resolve every label alike, however they were declared.
-/

set_option autoImplicit false

namespace RdfDataset

structure Namespaces where
  table : Std.ExtTreeMap String String
deriving DecidableEq

namespace Namespaces

def empty : Namespaces := ⟨∅⟩

/-- Declares a label. An earlier declaration of it is forgotten. -/
def declare (env : Namespaces) (label space : String) : Namespaces :=
  ⟨env.table.insert label space⟩

def resolve? (env : Namespaces) (label : String) : Option String := env.table[label]?

def declareAll (env : Namespaces) (declarations : List (String × String)) : Namespaces :=
  declarations.foldl (fun env (label, space) => env.declare label space) env

def ofPrologue (prologue : Prologue) : Namespaces := empty.declareAll prologue.prefixes

end Namespaces

end RdfDataset
