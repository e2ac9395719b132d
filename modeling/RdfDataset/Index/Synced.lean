import RdfDataset.Index.Sorted

/-!
# Indexes kept in step

Several indexes that hold the same keys, each in its own order, and the named graphs of these keys.
The first index answers all questions; without any index there is nothing to answer from, and only
the named graphs are remembered.
-/

set_option autoImplicit false

namespace RdfDataset.Index

/-- Indexes that get the same keys, and the graphs that have been named by a key. -/
structure Synced where
  indexes : List Sorted
  graphs : Std.ExtTreeSet ObjectId

namespace Synced

def empty (orders : List Order) : Synced := ⟨orders.map Sorted.empty, ∅⟩

/-- The index that answers. -/
def primary? (synced : Synced) : Option Sorted := synced.indexes.head?

def size (synced : Synced) : Nat := (synced.primary?.map Sorted.size).getD 0

def isEmpty (synced : Synced) : Bool := synced.size == 0

def contains (synced : Synced) (key : Key) : Bool :=
  (synced.primary?.map fun index => index.contains (index.order.row key)).getD false

/-- Adds a key to one index after the other. The answer is that of the last one. -/
def insertInto (key : Key) (indexes : List Sorted) : Bool × List Sorted :=
  let answers := indexes.map fun index => index.insertKey key
  ((answers.getLast?.map Prod.fst).getD false, answers.map Prod.snd)

/-- Adds a key to every index and its graph to the named graphs. The answer tells whether the key is
new. -/
def insert (synced : Synced) (key : Key) : Bool × Synced :=
  let (isNew, indexes) := insertInto key synced.indexes
  (isNew,
    { indexes
      graphs := if key.isInDefaultGraph then synced.graphs else synced.graphs.insert key.graph })

def keys (synced : Synced) : List Key := (synced.primary?.map Sorted.keys).getD []

def namedGraphs (synced : Synced) : List ObjectId := synced.graphs.toList

end Synced

end RdfDataset.Index
