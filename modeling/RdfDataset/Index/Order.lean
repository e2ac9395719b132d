import RdfDataset.Key

/-!
# Index orders

An index stores the four ids of a key in an order of its own, so that keys which agree in the first
ids of that order stand together. Main definitions: the row of a key in an order, and the key of a
row, which undo each other.
-/

set_option autoImplicit false

namespace RdfDataset.Index

open Std

structure Row where
  first : ObjectId
  second : ObjectId
  third : ObjectId
  fourth : ObjectId
deriving DecidableEq

namespace Row

/-- The ids of a row, to be read from left to right. -/
def ids (row : Row) : List ObjectId := [row.first, row.second, row.third, row.fourth]

/-- Rows are compared from left to right. -/
instance : Ord Row where
  compare := compareLex (compareOn first)
    (compareLex (compareOn second) (compareLex (compareOn third) (compareOn fourth)))

instance : TransOrd Row :=
  inferInstanceAs (TransCmp (compareLex (compareOn first)
    (compareLex (compareOn second) (compareLex (compareOn third) (compareOn fourth)))))

instance : LawfulEqOrd Row where
  eq_of_compare {a b} h := by
    obtain ⟨first, h⟩ := compareLex_eq_eq h
    obtain ⟨second, h⟩ := compareLex_eq_eq h
    obtain ⟨third, fourth⟩ := compareLex_eq_eq h
    have first : a.first = b.first := LawfulEqOrd.eq_of_compare first
    have second : a.second = b.second := LawfulEqOrd.eq_of_compare second
    have third : a.third = b.third := LawfulEqOrd.eq_of_compare third
    have fourth : a.fourth = b.fourth := LawfulEqOrd.eq_of_compare fourth
    cases a; cases b; simp_all

end Row

inductive Component where
  | graph
  | subject
  | predicate
  | object
deriving DecidableEq

namespace Component

/-- The place of a component when the graph is named first. -/
def place : Component → Nat
  | graph => 0
  | subject => 1
  | predicate => 2
  | object => 3

def read (key : Key) : Component → ObjectId
  | graph => key.graph
  | subject => key.subject
  | predicate => key.predicate
  | object => key.object

end Component

/-- The orders in which indexes are kept, named by the initials of their components. -/
inductive Order where
  | gspo
  | gpos
  | gosp
deriving DecidableEq

namespace Order

def components : Order → Component × Component × Component × Component
  | gspo => (.graph, .subject, .predicate, .object)
  | gpos => (.graph, .predicate, .object, .subject)
  | gosp => (.graph, .object, .subject, .predicate)

def places (order : Order) : List Nat :=
  let (first, second, third, fourth) := order.components
  [first.place, second.place, third.place, fourth.place]

def row (order : Order) (key : Key) : Row :=
  let (first, second, third, fourth) := order.components
  ⟨first.read key, second.read key, third.read key, fourth.read key⟩

/-- The key of a row: every id goes back to the place that its component has when the graph is named
first. -/
def key (order : Order) (row : Row) : Key :=
  let slots := (order.places.zip row.ids).foldl
    (fun slots (place, id) slot => if slot = place then id else slots slot)
    fun _ => ObjectId.defaultGraph
  ⟨slots 1, slots 2, slots 3, slots 0⟩

theorem key_row (order : Order) (key : Key) : order.key (order.row key) = key := by
  cases order <;> rfl

theorem row_key (order : Order) (row : Row) : order.row (order.key row) = row := by
  cases order <;> rfl

end Order

end RdfDataset.Index
