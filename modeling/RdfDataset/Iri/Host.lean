import RdfDataset.Iri.Characters

/-!
# Hosts

The authority of an IRI: user information, a host, and a number behind a colon. A host in brackets
is an IP address of version 6, or of a version yet to come; every other host is a name.
-/

set_option autoImplicit false

namespace RdfDataset.Iri

/-- A decimal number up to 255 without leading zeros. -/
def isOctet (text : List Char) : Bool :=
  match text with
  | [] => false
  | '0' :: rest => rest.isEmpty
  | _ => text.length ≤ 3 && text.all Char.isDigit
      && (text.foldl (fun n c => 10 * n + (c.toNat - '0'.toNat)) 0) ≤ 255

def isIpv4 (text : List Char) : Bool :=
  let parts := text.splitOn '.'
  parts.length == 4 && parts.all isOctet

def isHexGroup (text : List Char) : Bool :=
  !text.isEmpty && text.length ≤ 4 && text.all isHexDigit

/-- The number of groups in a list of them. The last one may be written as an address of version 4
where `allowIpv4` says so, and counts as two. -/
def groupCount? (allowIpv4 : Bool) : List (List Char) → Option Nat
  | [] => some 0
  | [last] =>
    if isHexGroup last then some 1
    else if allowIpv4 && isIpv4 last then some 2
    else none
  | group :: rest => if isHexGroup group then (groupCount? allowIpv4 rest).map (· + 1) else none

/-- The number of groups in a text where colons separate them. -/
def colonGroups? (allowIpv4 : Bool) (text : List Char) : Option Nat :=
  if text.isEmpty then some 0 else groupCount? allowIpv4 (text.splitOn ':')

def atDoubleColon? : List Char → Option (List Char × List Char)
  | ':' :: ':' :: rest => some ([], rest)
  | [] => none
  | c :: rest => (atDoubleColon? rest).map fun (before, behind) => (c :: before, behind)

/-- Eight groups, or fewer with a double colon in place of at least one. -/
def isIpv6 (text : List Char) : Bool :=
  match atDoubleColon? text with
  | none => colonGroups? true text == some 8
  | some (before, behind) =>
    match colonGroups? false before, colonGroups? true behind with
    | some m, some n => m + n ≤ 7
    | _, _ => false

/-- `v`, a hexadecimal version, a dot, and at least one character more. All of it is ASCII. -/
def isIpFuture (text : List Char) : Bool :=
  match text with
  | v :: rest =>
    let version := rest.takeWhile isHexDigit
    match rest.dropWhile isHexDigit with
    | '.' :: address =>
      (v == 'v' || v == 'V') && !version.isEmpty && !address.isEmpty
        && address.all fun c => isPlainAscii c || c == ':'
    | _ => false
  | [] => false

def isPortNumber (text : List Char) : Bool :=
  match text with
  | [] => true
  | ':' :: digits => digits.all Char.isDigit
  | _ => false

/-- A host and the number behind it, which may be missing. -/
def isHostAndPort (text : List Char) : Bool :=
  match text with
  | '[' :: rest =>
    match rest.dropWhile (· ≠ ']') with
    | _ :: behind =>
      let address := rest.takeWhile (· ≠ ']')
      (isIpv6 address || isIpFuture address) && isPortNumber behind
    | [] => false
  | _ =>
    isEncoded isPlain (text.takeWhile (· ≠ ':')) && isPortNumber (text.dropWhile (· ≠ ':'))

/-- An authority: everything up to the first `@` is user information. -/
def isAuthority (text : List Char) : Bool :=
  match text.dropWhile (· ≠ '@') with
  | _ :: host =>
    isEncoded (fun c => isPlain c || c == ':') (text.takeWhile (· ≠ '@')) && isHostAndPort host
  | [] => isHostAndPort text

end RdfDataset.Iri
