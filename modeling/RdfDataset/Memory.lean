import RdfDataset.KeySet
import RdfDataset.Lexicon
import RdfDataset.World

/-!
# A world in memory

Lexicon and keys side by side. As a world they answer every call truthfully; only the backend's own
rule can refuse a key. A statement is looked up by entries and without registering anything.
-/

set_option autoImplicit false

namespace RdfDataset

structure Memory where
  lexicon : Lexicon
  keys : KeySet

namespace Memory

def empty : Memory := ⟨.empty, .empty⟩

/-- The id of an entry, given out now if the entry is new. -/
def register (entry : Entry) (memory : Memory) : ObjectId × Memory :=
  let (id, lexicon) := memory.lexicon.register entry
  (id, { memory with lexicon })

def index (key : Key) (memory : Memory) : Except StorageError Unit × Memory :=
  let (answer, keys) := memory.keys.index key
  (answer, { memory with keys })

/-- The memory as a world, under a token that stays cancelled or stays uncancelled. -/
def world (cancelled : Bool) : World Memory where
  register := register
  index := index
  isCancelled := fun _ => cancelled

/-- The key of a statement made of entries, if all of them are known. Without a graph the statement
belongs to the default graph. -/
def key? (memory : Memory) (subject predicate object : Entry) (graph : Option Entry) :
    Option Key := do
  return {
    subject := ← memory.lexicon.id? subject
    predicate := ← memory.lexicon.id? predicate
    object := ← memory.lexicon.id? object
    graph := ← match graph with
      | none => some ObjectId.defaultGraph
      | some graph => memory.lexicon.id? graph }

/-- Whether a statement is held, as far as all its entries are known. -/
def holds? (memory : Memory) (subject predicate object : Entry) (graph : Option Entry) :
    Option Bool :=
  (memory.key? subject predicate object graph).map memory.keys.contains

end Memory

end RdfDataset
