import RdfDataset.Text.Blank
import RdfDataset.Text.Word

/-!
# The form of a request

A text that follows neither grammar is reported under the grammar it was meant for. Which one that
is shows in the first keyword behind the declarations: the four query forms are SELECT, CONSTRUCT,
DESCRIBE and ASK. The declarations are skipped without reading them: white space, comments up to the
next line feed, and PREFIX or BASE with everything up to the next `>`.
-/

set_option autoImplicit false

namespace RdfDataset.Sparql

open Text

/-- The keyword at the start of a text: its ASCII letters up to the first other character. -/
def leadingKeyword (text : List Char) : List Char := text.takeWhile Char.isAlpha

def isDeclarationKeyword (word : List Char) : Bool :=
  ["PREFIX", "BASE"].any fun keyword => sameWord word keyword.toList

def isQueryKeyword (word : List Char) : Bool :=
  ["SELECT", "CONSTRUCT", "DESCRIBE", "ASK"].any fun keyword => sameWord word keyword.toList

/-- Tells whether the first keyword behind the declarations opens a retrieval query. -/
def hasQueryForm (text : List Char) : Bool :=
  match text with
  | [] => false
  | c :: rest =>
    if isBlank c then hasQueryForm rest
    else if c = '#' then
      match _h : after? '\n' rest with
      | some rest => hasQueryForm rest
      | none => false
    else if isDeclarationKeyword (leadingKeyword (c :: rest)) then
      match _h : after? '>' (c :: rest) with
      | some rest => hasQueryForm rest
      | none => false
    else isQueryKeyword (leadingKeyword (c :: rest))
termination_by text.length
decreasing_by
  · simp
  · have := length_lt_of_after? _h
    simp only [List.length_cons]
    omega
  · exact length_lt_of_after? _h

end RdfDataset.Sparql
