import RdfDataset.ObjectId
import RdfDataset.Order

/-!
# Keys

A key is a quad after its terms have been replaced by object ids. Keys are ordered by subject, then
predicate, object and graph, while their written form starts with the graph.
-/

set_option autoImplicit false

namespace RdfDataset

open Std

structure Key where
  subject : ObjectId
  predicate : ObjectId
  object : ObjectId
  graph : ObjectId
deriving DecidableEq

namespace Key

/-- Keys are compared by subject, predicate, object, graph, the first difference deciding. -/
instance : Ord Key where
  compare := compareLex (compareOn subject)
    (compareLex (compareOn predicate) (compareLex (compareOn object) (compareOn graph)))

instance : TransOrd Key :=
  inferInstanceAs (TransCmp (compareLex (compareOn subject)
    (compareLex (compareOn predicate) (compareLex (compareOn object) (compareOn graph)))))

def isInDefaultGraph (key : Key) : Bool := key.graph.isDefaultGraph

def render (key : Key) : String :=
  "(" ++ key.graph.render ++ ", " ++ key.subject.render ++ ", " ++ key.predicate.render ++ ", "
    ++ key.object.render ++ ")"

end Key

end RdfDataset
