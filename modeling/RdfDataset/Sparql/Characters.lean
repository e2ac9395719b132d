import RdfDataset.Text.Ranges

/-!
# Characters of requests

The classes of characters from which blanks and names are made.
-/

set_option autoImplicit false

namespace RdfDataset.Sparql

open Text

def isGap (c : Char) : Bool := c == ' ' || c == '\t' || c == '\r' || c == '\n'

/-- The letters of names. None of them lies beyond the first 65536 code points. -/
def nameStartRanges : Ranges :=
  [(0x41, 0x5A), (0x61, 0x7A), (0xC0, 0xD6), (0xD8, 0xF6), (0xF8, 0x2FF), (0x370, 0x37D),
    (0x37F, 0x1FFF), (0x200C, 0x200D), (0x2070, 0x218F), (0x2C00, 0x2FEF), (0x3001, 0xD7FF),
    (0xF900, 0xFDCF), (0xFDF0, 0xFFFD)]

def nameMarkRanges : Ranges := [(0x30, 0x39), (0xB7, 0xB7), (0x300, 0x36F), (0x203F, 0x2040)]

def isNameStart (c : Char) : Bool := nameStartRanges.has c

/-- Variables may start with an underscore or a digit as well, and have no hyphens. -/
def isVariableStart (c : Char) : Bool := isNameStart c || c == '_' || c.isDigit

def isVariableCharacter (c : Char) : Bool := isNameStart c || c == '_' || nameMarkRanges.has c

def isNameCharacter (c : Char) : Bool := isVariableCharacter c || c == '-'

def isEscapable (c : Char) : Bool := "_~.-!$&'()*+,;=/?#@%".toList.contains c

end RdfDataset.Sparql
