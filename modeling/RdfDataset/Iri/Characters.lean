import RdfDataset.Text.Ranges

/-!
# Characters of IRIs

Which characters may stand in which part of an IRI. All others, among them white space, controls and
the characters `<>"{}|\^`, can be there only as a percent sign with two hexadecimal digits.
-/

set_option autoImplicit false

namespace RdfDataset.Iri

open Text

/-- The characters beyond ASCII that may stand everywhere. -/
def commonRanges : Ranges :=
  [(0xA0, 0xD7FF), (0xF900, 0xFDCF), (0xFDF0, 0xFFEF), (0x10000, 0x1FFFD), (0x20000, 0x2FFFD),
    (0x30000, 0x3FFFD), (0x40000, 0x4FFFD), (0x50000, 0x5FFFD), (0x60000, 0x6FFFD),
    (0x70000, 0x7FFFD), (0x80000, 0x8FFFD), (0x90000, 0x9FFFD), (0xA0000, 0xAFFFD),
    (0xB0000, 0xBFFFD), (0xC0000, 0xCFFFD), (0xD0000, 0xDFFFD), (0xE1000, 0xEFFFD)]

/-- The private characters, which may stand in a query only. -/
def privateRanges : Ranges := [(0xE000, 0xF8FF), (0xF0000, 0xFFFFD), (0x100000, 0x10FFFD)]

def isHexDigit (c : Char) : Bool :=
  c.isDigit || ('a' ≤ c && c ≤ 'f') || ('A' ≤ c && c ≤ 'F')

/-- The ASCII characters that may stand in every part: unreserved ones and those that delimit within
a part. -/
def isPlainAscii (c : Char) : Bool := c.isAlphanum || "-._~!$&'()*+,;=".toList.contains c

def isPlain (c : Char) : Bool := isPlainAscii c || commonRanges.has c

def isPathCharacter (c : Char) : Bool := isPlain c || c == ':' || c == '@' || c == '/'

def isFragmentCharacter (c : Char) : Bool := isPathCharacter c || c == '?'

def isQueryCharacter (c : Char) : Bool := isFragmentCharacter c || privateRanges.has c

def isSchemeCharacter (c : Char) : Bool := c.isAlphanum || c == '+' || c == '-' || c == '.'

/-- Every character is allowed or belongs to a percent sign followed by two hexadecimal digits. -/
def isEncoded (allowed : Char → Bool) : List Char → Bool
  | [] => true
  | '%' :: a :: b :: rest => isHexDigit a && isHexDigit b && isEncoded allowed rest
  | c :: rest => c != '%' && allowed c && isEncoded allowed rest

end RdfDataset.Iri
