/-!
# Character classes by ranges

A character class of a standard is a list of code point ranges, both ends included.
-/

set_option autoImplicit false

namespace RdfDataset.Text

/-- Code point ranges, both ends included. -/
abbrev Ranges := List (Nat × Nat)

def Ranges.has (ranges : Ranges) (c : Char) : Bool :=
  ranges.any fun (least, greatest) => least ≤ c.toNat && c.toNat ≤ greatest

end RdfDataset.Text
