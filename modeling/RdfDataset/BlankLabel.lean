import RdfDataset.Request

/-!
# Labels of blank nodes

A label only tells the blank nodes of a request apart; which labels are chosen does not matter. To
compare requests, labels are replaced by standard ones: `b0` for the label that appears first, `b1`
for the next one, and so on.
-/

set_option autoImplicit false

namespace RdfDataset

namespace Term

def labels : Term → List String
  | blankNode label => [label]
  | _ => []

def relabel (rename : String → String) : Term → Term
  | blankNode label => blankNode (rename label)
  | term => term

end Term

namespace Quad

/-- The labels in a quad, the graph's last. -/
def labels (quad : Quad) : List String :=
  quad.subject.labels ++ quad.predicate.labels ++ quad.object.labels
    ++ quad.graph.toList.flatMap Term.labels

def relabel (rename : String → String) (quad : Quad) : Quad where
  subject := quad.subject.relabel rename
  predicate := quad.predicate.relabel rename
  object := quad.object.relabel rename
  graph := quad.graph.map (Term.relabel rename)

end Quad

namespace Operation

def labels : Operation → List String
  | insertData quads => quads.flatMap Quad.labels
  | _ => []

def relabel (rename : String → String) : Operation → Operation
  | insertData quads => insertData (quads.map (Quad.relabel rename))
  | operation => operation

/-- The standard label of the blank node that is number `n` to appear. -/
def standardLabel (n : Nat) : String := "b" ++ Nat.repr n

def standardize (operations : List Operation) : List Operation :=
  let seen := (operations.flatMap labels).eraseDups
  operations.map (relabel fun label => standardLabel (seen.idxOf label))

end Operation

end RdfDataset
