import Std.Data.ExtTreeMap
import RdfDataset.Entry
import RdfDataset.ObjectId

/-!
# Lexicon

The lexicon numbers entries in the order in which they are first registered, starting behind the id
of the default graph. Two maps are kept, one per direction of lookup, and the next free id. The
counter is a 32-bit word and starts over after its last value.
-/

set_option autoImplicit false

namespace RdfDataset

/-- The numbering of the entries registered so far. -/
structure Lexicon where
  ids : Std.ExtTreeMap Entry ObjectId
  entries : Std.ExtTreeMap ObjectId Entry
  next : ObjectId

namespace Lexicon

/-- Nothing is registered, and the first id to be given is the one behind the default graph's. -/
def empty : Lexicon := ⟨∅, ∅, ObjectId.defaultGraph + 1⟩

def id? (lexicon : Lexicon) (entry : Entry) : Option ObjectId := lexicon.ids[entry]?

def entry? (lexicon : Lexicon) (id : ObjectId) : Option Entry := lexicon.entries[id]?

def size (lexicon : Lexicon) : Nat := lexicon.entries.size

def isEmpty (lexicon : Lexicon) : Bool := lexicon.entries.isEmpty

/-- Gives an unseen entry the next id. A known entry keeps its id, and the lexicon stays as it is.
-/
def register (lexicon : Lexicon) (entry : Entry) : ObjectId × Lexicon :=
  match lexicon.id? entry with
  | some id => (id, lexicon)
  | none =>
    (lexicon.next,
      { ids := lexicon.ids.insert entry lexicon.next
        entries := lexicon.entries.insert lexicon.next entry
        next := lexicon.next + 1 })

/-- The entries with the ids 1, 2, … as far as the size goes. -/
def listing (lexicon : Lexicon) : List Entry :=
  (List.range lexicon.size).filterMap fun n => lexicon.entry? (UInt32.ofNat (n + 1))

end Lexicon

end RdfDataset
