import Passbook.Text.Utf8
/-!
Request targets: a path with a query, the same behind a scheme and an authority, an authority alone, or `*`.
What follows a `#` is no part of a target.
-/
namespace Passbook.Http

structure Target where
  path : List UInt8
  query : Option (List UInt8) := none
  deriving DecidableEq, Repr

namespace Target

def maxSize : Nat := 65534

def code (c : Char) : UInt8 := c.toUInt8

def isLetterOrDigit (b : UInt8) : Bool := b < 128 && (Char.ofNat b.toNat).isAlphanum

def isOneOf (marks : String) (b : UInt8) : Bool := marks.toList.any fun c => code c == b

def isPathByte (b : UInt8) : Bool :=
  128 ≤ b || b == 127 || isLetterOrDigit b || isOneOf "!$%&'()*+,-./:;=@[\\]^_|~\"\x7b\x7d" b

def isQueryByte (b : UInt8) : Bool :=
  128 ≤ b || b == 127 || isLetterOrDigit b || isOneOf "!$%&'()*+,-./:;=@[\\]^_|~\x7b\x7d?\x60" b

def isSchemeByte (b : UInt8) : Bool := isLetterOrDigit b || isOneOf "+-.~" b

def isAuthorityByte (b : UInt8) : Bool := isLetterOrDigit b || isOneOf "!$&'()*+,-.:;=@[]_~%" b

def beforeFragment (bs : List UInt8) : List UInt8 := bs.takeWhile (· != code '#')

def ofPath? (bs : List UInt8) : Option Target :=
  let bs := beforeFragment bs
  let path := bs.takeWhile (· != code '?')
  let query := match bs.dropWhile (· != code '?') with
    | [] => none
    | _ :: query => some query
  if path.all isPathByte && (query.getD []).all isQueryByte then
    some ⟨if path.isEmpty then [code '/'] else path, query⟩
  else none

def maxSchemeSize : Nat := 64

/-- What stands behind a scheme, or `none` if there is no scheme; a scheme that is too long fails. -/
def afterScheme (bs : List UInt8) : Option (Option (List UInt8)) :=
  let scheme := bs.takeWhile isSchemeByte
  match bs.drop scheme.length with
  | c :: s :: s' :: rest =>
    if c == code ':' && s == code '/' && s' == code '/' then
      if maxSchemeSize < scheme.length then none else some (some rest)
    else some none
  | _ => some none

/-- The marks of an authority that have been met. An `@` or a `]` makes its colons and percent signs count anew. -/
structure Marks where
  colons : Nat := 0
  opened : Bool := false
  closed : Bool := false
  percent : Bool := false
  afterAt : Bool := false
  deriving DecidableEq, Repr

def Marks.push (m : Marks) (b : UInt8) : Option Marks :=
  let m := { m with afterAt := false }
  if b == code ':' then if 8 ≤ m.colons then none else some { m with colons := m.colons + 1 }
  else if b == code '[' then if m.percent || m.opened then none else some { m with opened := true }
  else if b == code ']' then
    if !m.opened || m.closed then none else some { m with closed := true, colons := 0, percent := false }
  else if b == code '@' then some { m with colons := 0, percent := false, afterAt := true }
  else if b == code '%' then some { m with percent := true }
  else if isAuthorityByte b then some m
  else none

def Marks.isSound (m : Marks) : Bool := m.opened == m.closed && m.colons ≤ 1 && !m.afterAt && !m.percent

def isAuthority (bs : List UInt8) : Bool := ((bs.foldlM Marks.push {}).map Marks.isSound).getD false

def endsAuthority (b : UInt8) : Bool := b == code '/' || b == code '?' || b == code '#'

def ofBytes? (bs : List UInt8) : Option Target :=
  if bs.isEmpty || maxSize < bs.length then none
  else if bs = [code '*'] then some ⟨bs, none⟩
  else if bs.head? = some (code '/') then ofPath? bs
  else
    match afterScheme bs with
    | none => none
    | some none => if isAuthority bs then some ⟨[], none⟩ else none
    | some (some rest) =>
      let authority := rest.takeWhile (!endsAuthority ·)
      if authority.isEmpty || !isAuthority authority then none else ofPath? (rest.drop authority.length)

def read (text : String) : Option Target := ofBytes? (Utf8.encode text)

end Target

end Passbook.Http
