import Passbook.Text.Utf8
import Passbook.Uuid.Basic
/-!
Reading an identifier: 32 hexadecimal digits, or five groups of them with hyphens between, in braces or behind
`urn:uuid:` if at all. Lengths and positions in the messages count bytes.
-/
namespace Passbook.Uuid

inductive ReadError where
  | length (found : Nat)
  | character (found : Char) (position : Nat)
  | groupCount (found : Nat)
  | groupLength (group expected found : Nat)
  deriving DecidableEq, Repr

def ReadError.message : ReadError → String
  | .length n => "invalid length: found " ++ toString n
  | .character c i => "invalid character: found `" ++ String.singleton c ++ "` at " ++ toString i
  | .groupCount n => "invalid group count: expected 5, found " ++ toString n
  | .groupLength g e n =>
    "invalid group length in group " ++ toString g ++ ": expected " ++ toString e ++ ", found " ++ toString n

def urnMark : List Char := "urn:uuid:".toList

def startsAsUrn (cs : List Char) : Bool := (cs.take 9).map Char.toLower == urnMark

def isBraced (cs : List Char) : Bool := 2 ≤ cs.length && cs.head? == some '\x7b' && cs.getLast? == some '\x7d'

def unwrap (cs : List Char) : List Char :=
  if Utf8.size cs = 38 && isBraced cs then cs.tail.dropLast
  else if Utf8.size cs = 45 && startsAsUrn cs then cs.drop 9
  else cs

structure Style where
  offset : Nat
  body : List Char
  plain : Bool

def style (cs : List Char) : Style :=
  if Utf8.size cs = 36 then ⟨0, cs, false⟩
  else if isBraced cs then ⟨1, cs.tail.dropLast, false⟩
  else if startsAsUrn cs then ⟨9, cs.drop 9, false⟩
  else ⟨0, cs, true⟩

def intruder? (position : Nat) : List Char → Option (Char × Nat)
  | [] => none
  | c :: cs => if c == '-' || (Text.hexDigit? c).isSome then intruder? (position + 1) cs else some (c, position)

def hyphens (cs : List Char) : List Nat := cs.zipIdx.filterMap fun p => if p.1 == '-' then some p.2 else none

def layout : List (Nat × Nat × Nat) := [(8, 8, 0), (13, 4, 9), (18, 4, 14), (23, 4, 19)]

def misplaced? (found : List Nat) : Option ReadError :=
  (layout.zip found).zipIdx.findSome? fun ((((place, expected, start)), p), group) =>
    if p = place then none else some (.groupLength group expected (p - start))

def bytesOfDigits : List Nat → List UInt8
  | h :: l :: ds => UInt8.ofNat (16 * h + l) :: bytesOfDigits ds
  | _ => []

def ofDigits? (cs : List Char) : Option Uuid := ofBytes? (bytesOfDigits (cs.filterMap Text.hexDigit?))

def read (cs : List Char) : Except ReadError Uuid :=
  if Utf8.size cs = 0 || 45 < Utf8.size cs then .error (.length (Utf8.size cs))
  else
    let cs := unwrap cs
    let size := Utf8.size cs
    let style := style cs
    match intruder? style.offset style.body with
    | some (c, i) => .error (.character c i)
    | none =>
      let found := hyphens style.body
      if style.plain && found.isEmpty then
        if size = 32 then (ofDigits? cs).elim (.error (.length size)) .ok else .error (.length size)
      else if found.length ≠ 4 then .error (.groupCount (found.length + 1))
      else match misplaced? found with
        | some e => .error e
        | none =>
          let misfit := ReadError.groupLength 4 12 (size - 24)
          if size = 36 then (ofDigits? cs).elim (.error misfit) .ok else .error misfit

end Passbook.Uuid
