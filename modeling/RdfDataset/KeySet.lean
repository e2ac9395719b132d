import RdfDataset.Failure
import RdfDataset.Index.Synced

/-!
# The set of keys

All quads of a dataset as keys, indexed in the three orders. Only the graph position may hold the id
of the default graph.
-/

set_option autoImplicit false

namespace RdfDataset

structure KeySet where
  indexes : Index.Synced

namespace KeySet

def empty : KeySet := ⟨.empty [.gspo, .gpos, .gosp]⟩

/-- The first position other than the graph that holds the id of the default graph. -/
def misplaced? (key : Key) : Option Position :=
  if key.subject.isDefaultGraph then some .subject
  else if key.predicate.isDefaultGraph then some .predicate
  else if key.object.isDefaultGraph then some .object
  else none

def misplacedMessage (position : Position) (key : Key) : String :=
  "The default graph id cannot be used as " ++ position.render ++ " of the key " ++ key.render

/-- Adds a key, or refuses it and stays as it is. -/
def index (keys : KeySet) (key : Key) : Except StorageError Unit × KeySet :=
  match misplaced? key with
  | some position => (.error (.corruption (misplacedMessage position key)), keys)
  | none => (.ok (), ⟨(keys.indexes.insert key).2⟩)

def size (keys : KeySet) : Nat := keys.indexes.size

def isEmpty (keys : KeySet) : Bool := keys.indexes.isEmpty

def contains (keys : KeySet) (key : Key) : Bool := keys.indexes.contains key

/-- All keys, by graph, subject, predicate and object. -/
def toList (keys : KeySet) : List Key := keys.indexes.keys

/-- The ids of the graphs that hold a key, without the default graph, ascending. -/
def namedGraphs (keys : KeySet) : List ObjectId := keys.indexes.namedGraphs

end KeySet

end RdfDataset
