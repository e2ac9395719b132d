import RdfDataset.Iri.Host

/-!
# IRI references

A reference has up to five parts: scheme, authority, path, query and fragment. Every text has such
parts; a reference is well formed if all characters are allowed where they stand. An IRI is a
well-formed reference with a scheme.
-/

set_option autoImplicit false

namespace RdfDataset.Iri

/-- The parts of a reference, without the characters that separate them. -/
structure Reference where
  scheme : Option (List Char)
  authority : Option (List Char)
  path : List Char
  query : Option (List Char)
  fragment : Option (List Char)
deriving DecidableEq

/-- Cuts a text at the first `c`, which belongs to neither side. -/
def cut (c : Char) (text : List Char) : List Char × Option (List Char) :=
  match text.dropWhile (· ≠ c) with
  | _ :: rest => (text.takeWhile (· ≠ c), some rest)
  | [] => (text, none)

/-- Cuts off a scheme: a letter, then letters, digits and some marks up to a colon. -/
def cutScheme (text : List Char) : Option (List Char) × List Char :=
  match text with
  | first :: _ =>
    match text.dropWhile isSchemeCharacter with
    | ':' :: rest =>
      if first.isAlpha then (some (text.takeWhile isSchemeCharacter), rest) else (none, text)
    | _ => (none, text)
  | [] => (none, [])

/-- Cuts off an authority: two slashes and everything up to the next one. -/
def cutAuthority (text : List Char) : Option (List Char) × List Char :=
  match text with
  | '/' :: '/' :: rest => (some (rest.takeWhile (· ≠ '/')), rest.dropWhile (· ≠ '/'))
  | _ => (none, text)

namespace Reference

def ofText (text : List Char) : Reference :=
  let (text, fragment) := cut '#' text
  let (text, query) := cut '?' text
  let (scheme, text) := cutScheme text
  let (authority, path) := cutAuthority text
  { scheme, authority, path, query, fragment }

def toText (reference : Reference) : List Char :=
  (reference.scheme.map (· ++ [':'])).getD []
    ++ (reference.authority.map ('/' :: '/' :: ·)).getD []
    ++ reference.path
    ++ (reference.query.map ('?' :: ·)).getD []
    ++ (reference.fragment.map ('#' :: ·)).getD []

/-- Where neither scheme nor authority comes first, the first segment of the path has no colon, for
what stands before a colon would be taken for a scheme. -/
def hasPlainStart (reference : Reference) : Bool :=
  reference.scheme.isSome || reference.authority.isSome
    || !(reference.path.takeWhile (· ≠ '/')).contains ':'

/-- All characters are allowed where they stand. -/
def isWellFormed (reference : Reference) : Bool :=
  reference.hasPlainStart
    && reference.authority.all isAuthority
    && isEncoded isPathCharacter reference.path
    && reference.query.all (isEncoded isQueryCharacter)
    && reference.fragment.all (isEncoded isFragmentCharacter)

end Reference

def isIri (text : String) : Bool :=
  let reference := Reference.ofText text.toList
  reference.scheme.isSome && reference.isWellFormed

end RdfDataset.Iri
