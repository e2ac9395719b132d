import Std.Data.ExtTreeSet
import RdfDataset.Index.Order

/-!
# A sorted index

The rows of one index as a sorted set.
-/

set_option autoImplicit false

namespace RdfDataset.Index

structure Sorted where
  order : Order
  rows : Std.ExtTreeSet Row

namespace Sorted

def empty (order : Order) : Sorted := ⟨order, ∅⟩

def size (index : Sorted) : Nat := index.rows.size

def isEmpty (index : Sorted) : Bool := index.size == 0

def contains (index : Sorted) (row : Row) : Bool := index.rows.contains row

/-- Adds a row. The answer tells whether the row is new. -/
def insert (index : Sorted) (row : Row) : Bool × Sorted :=
  (!index.contains row, { index with rows := index.rows.insert row })

def insertKey (index : Sorted) (key : Key) : Bool × Sorted := index.insert (index.order.row key)

def toList (index : Sorted) : List Row := index.rows.toList

def keys (index : Sorted) : List Key := index.toList.map index.order.key

end Sorted

end RdfDataset.Index
