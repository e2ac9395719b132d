/-!
# Language tags

A language tag is a sequence of subtags separated by hyphens: a language, up to three extended
language subtags, a script, a region, variants, extensions and a private part, each but the first of
them optional, in this order. Besides these there are tags that are private as a whole and a closed
list of tags that are older than the rules. Whether a subtag is registered is not looked at.
-/

set_option autoImplicit false

namespace RdfDataset.LanguageTag

/-- The tags that are well formed only because they were registered before the rules. -/
def grandfathered : List String :=
  ["art-lojban", "cel-gaulish", "en-gb-oed", "i-ami", "i-bnn", "i-default", "i-enochian", "i-hak",
    "i-klingon", "i-lux", "i-mingo", "i-navajo", "i-pwn", "i-tao", "i-tay", "i-tsu", "no-bok",
    "no-nyn", "sgn-be-fr", "sgn-be-nl", "sgn-ch-de", "zh-guoyu", "zh-hakka", "zh-min",
    "zh-min-nan", "zh-xiang"]

/-- The place reached in a tag. Where a subtag is still owed, the tag cannot end. -/
inductive Place where
  | start
  | language (extended : Nat)
  | extended
  | script
  | region
  | extension (owed : Bool)
  | privateUse (owed : Bool)
deriving DecidableEq

def isLetters (subtag : List Char) : Bool := subtag.all Char.isAlpha

def isDigits (subtag : List Char) : Bool := subtag.all Char.isDigit

def isAlphanumeric (subtag : List Char) : Bool := subtag.all Char.isAlphanum

def isRegion (subtag : List Char) : Bool :=
  (subtag.length == 2 && isLetters subtag) || (subtag.length == 3 && isDigits subtag)

/-- At least five characters, or four of which the first is a digit. -/
def isVariant (subtag : List Char) : Bool :=
  isAlphanumeric subtag &&
    ((subtag.length ≥ 5 && isLetters (subtag.take 1)) ||
      (subtag.length ≥ 4 && isDigits (subtag.take 1)))

namespace Place

/-- Script, region and variants may still come here. -/
def beforeScript : Place → Bool
  | language _ => true
  | extended => true
  | _ => false

def beforeRegion (place : Place) : Bool := place.beforeScript || place == script

def beforeVariant (place : Place) : Bool := place.beforeRegion || place == region

/-- The first subtag is a language of two to eight letters. Only one of two or three letters can be
followed by extended language subtags. -/
def first (subtag : List Char) : Option Place :=
  if subtag.length < 2 || !isLetters subtag then none
  else if subtag.length < 4 then some (language 0)
  else some extended

def plain (place : Place) (subtag : List Char) : Option Place :=
  match place with
  | language count =>
    if subtag.length == 3 && isLetters subtag then
      if count < 3 then some (language (count + 1)) else none
    else rest
  | _ => rest
where
  rest : Option Place :=
    if place.beforeScript && subtag.length == 4 && isLetters subtag then some script
    else if place.beforeRegion && isRegion subtag then some region
    else if place.beforeVariant && isVariant subtag then some region
    else none

/-- The place behind a subtag. A subtag has one to eight characters; a single one opens an
extension, and `x` the private part. -/
def next (place : Place) (subtag : List Char) : Option Place :=
  if subtag.isEmpty || subtag.length > 8 then none
  else
    match place with
    | start => first subtag
    | privateUse _ => if isAlphanumeric subtag then some (privateUse false) else none
    | _ =>
      if subtag == ['x'] || subtag == ['X'] then
        if place == extension true then none else some (privateUse true)
      else if subtag.length == 1 && isAlphanumeric subtag then
        if place == extension true then none else some (extension true)
      else
        match place with
        | extension _ => if isAlphanumeric subtag then some (extension false) else none
        | _ => plain place subtag

def mayEnd : Place → Bool
  | extension owed => !owed
  | privateUse owed => !owed
  | _ => true

end Place

def subtags (tag : List Char) : List (List Char) := tag.splitOn '-'

/-- A subtag of the private part: one to eight letters or digits. -/
def isPrivateSubtag (subtag : List Char) : Bool :=
  !subtag.isEmpty && subtag.length ≤ 8 && isAlphanumeric subtag

/-- A tag that is private as a whole: `x` and at least one more subtag. -/
def isPrivate (tag : List Char) : Bool :=
  match subtags tag with
  | [x] :: first :: rest => (x == 'x' || x == 'X') && (first :: rest).all isPrivateSubtag
  | _ => false

def isLayered (tag : List Char) : Bool :=
  match (subtags tag).foldlM Place.next .start with
  | some place => place.mayEnd
  | none => false

def isWellFormed (tag : List Char) : Bool :=
  grandfathered.contains (String.ofList (tag.map Char.toLower)) || isPrivate tag || isLayered tag

end RdfDataset.LanguageTag
