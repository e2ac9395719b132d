/-!
# Object ids

Terms enter the indexes as 32-bit object ids. Id 0 stands for the default graph and is the only id
that no lexicon entry is meant to have.
-/

set_option autoImplicit false

namespace RdfDataset

/-- The word that stands for a term in the indexes. -/
abbrev ObjectId := UInt32

namespace ObjectId

def defaultGraph : ObjectId := 0

def isDefaultGraph (id : ObjectId) : Bool := id == defaultGraph

def render (id : ObjectId) : String := Nat.repr id.toNat

end ObjectId

end RdfDataset
