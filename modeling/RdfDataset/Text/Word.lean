/-!
# Words

Keywords are words of ASCII letters in any case. This module compares words, and cuts a text at the
first place where a character stands.
-/

set_option autoImplicit false

namespace RdfDataset.Text

/-- Two words are the same up to the case of ASCII letters. -/
def sameWord (a b : List Char) : Bool := a.map Char.toLower == b.map Char.toLower

def after? (c : Char) : List Char → Option (List Char)
  | [] => none
  | d :: rest => if d = c then some rest else after? c rest

/-- What lies behind a character is shorter than the text. -/
theorem length_lt_of_after? {c : Char} {text rest : List Char} (h : after? c text = some rest) :
    rest.length < text.length := by
  induction text with
  | nil => simp [after?] at h
  | cons d text ih =>
    unfold after? at h
    split at h
    · obtain rfl := Option.some.inj h
      simp
    · have := ih h
      simp only [List.length_cons]
      omega

end RdfDataset.Text
