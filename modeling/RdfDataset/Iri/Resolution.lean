import RdfDataset.Iri.Reference

/-!
# Resolution of references

A reference without a scheme is read relative to a base IRI. Of the base it takes over everything
that it lacks itself, up to its own first part; a relative path goes on from the directory of the
base's path. The segments `.` and `..` of the reference are carried out on the way. Those of the
base stay as they are, and so does the path of a reference that has a scheme or an authority.

A directory is a text that ends in a slash, or no text at all. Behind an authority it never becomes
empty: nothing lies above the root. Without an authority a path need not start at the root, and the
empty directory lies above everything, also above the root.
-/

set_option autoImplicit false

namespace RdfDataset.Iri

def segments (path : List Char) : List (List Char) := path.splitOn '/'

/-- The directory of a path: everything up to its last slash. -/
def directory (path : List Char) : List Char := (path.reverse.dropWhile (· ≠ '/')).reverse

/-- Behind an authority every directory is at the root or below. -/
def grounded (rooted : Bool) (path : List Char) : List Char :=
  if rooted && path.isEmpty then ['/'] else path

def parent (rooted : Bool) (path : List Char) : List Char :=
  grounded rooted (directory path.dropLast)

/-- Without an authority a path cannot start with two slashes, for they would announce one. -/
def announcesAuthority (rooted : Bool) (path : List Char) : Bool :=
  !rooted && path.take 2 == ['/', '/']

/-- Follows segments from a directory. A dot segment at the end leaves a directory. From a directory
that would announce an authority the only way is up, which leads to the root. -/
def follow? (rooted : Bool) (path : List Char) : List (List Char) → Option (List Char)
  | [] => some path
  | segment :: rest =>
    if segment = ['.', '.'] then follow? rooted (parent rooted path) rest
    else if announcesAuthority rooted path then none
    else if segment = ['.'] then follow? rooted path rest
    else if rest.isEmpty then some (path ++ segment)
    else follow? rooted (path ++ segment ++ ['/']) rest

/-- The path that a path of a reference leads to. -/
def followPath? (rooted : Bool) (base path : List Char) : Option (List Char) :=
  match path with
  | '/' :: rest => follow? rooted ['/'] (segments rest)
  | _ => follow? rooted (grounded rooted (directory base)) (segments path)

namespace Reference

/-- The target of a reference, read relative to a base. -/
def resolve? (base reference : Reference) : Option Reference :=
  if reference.scheme.isSome then some reference
  else
    let target := { reference with scheme := base.scheme }
    if reference.authority.isSome then some target
    else
      let target := { target with authority := base.authority }
      if reference.path.isEmpty then
        some { target with path := base.path, query := reference.query.or base.query }
      else
        (followPath? base.authority.isSome base.path reference.path).map fun path =>
          { target with path }

end Reference

/-- The IRI that a text stands for. Without a base it has to be an IRI itself. -/
def resolve? (base : Option String) (text : String) : Option String :=
  match base with
  | none => if isIri text then some text else none
  | some base =>
    let reference := Reference.ofText text.toList
    if reference.isWellFormed then
      ((Reference.ofText base.toList).resolve? reference).map fun target =>
        String.ofList target.toText
    else none

end RdfDataset.Iri
