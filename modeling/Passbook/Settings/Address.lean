import Passbook.Text.Digits
/-!
Addresses to listen on: four octets with a port, or eight groups in brackets with a scope and a port.
-/
namespace Passbook

inductive SocketAddress where
  | v4 (octets : List Nat) (port : Nat)
  | v6 (groups : List Nat) (scope port : Nat)
  deriving DecidableEq, Repr

namespace SocketAddress

abbrev Reading (α : Type) := List Char → Option (α × List Char)

def digitIn? (base : Nat) (c : Char) : Option Nat := (Text.hexDigit? c).filter (· < base)

def number (base bound : Nat) (width : Option Nat) (padded : Bool) : Reading Nat := fun cs =>
  let digits := cs.takeWhile fun c => (digitIn? base c).isSome
  let n := (digits.filterMap (digitIn? base)).foldl (fun n d => base * n + d) 0
  if digits.isEmpty || width.any (· < digits.length) || bound ≤ n then none
  else if !padded && 1 < digits.length && digits.head? == some '0' then none
  else some (n, cs.drop digits.length)

def mark (c : Char) : Reading Unit
  | [] => none
  | x :: cs => if x = c then some ((), cs) else none

def item {α : Type} (separator : Char) (index : Nat) (read : Reading α) : Reading α := fun cs =>
  if index = 0 then read cs else (mark separator cs).bind fun r => read r.2

def octet (index : Nat) : Reading Nat := item '.' index (number 10 256 (some 3) false)

def octets : Reading (List Nat) := fun cs => do
  let (a, cs) ← octet 0 cs
  let (b, cs) ← octet 1 cs
  let (c, cs) ← octet 2 cs
  let (d, cs) ← octet 3 cs
  return ([a, b, c, d], cs)

def port : Reading Nat := fun cs => do
  let (_, cs) ← mark ':' cs
  number 10 (Nat.pow 2 16) none true cs

def pairs : List Nat → List Nat
  | a :: b :: rest => (256 * a + b) :: pairs rest
  | _ => []

/-- Up to `room` groups from the one with this index on; four octets may stand for the last two. The flag says
that they did. -/
def groups (index : Nat) : Nat → List Char → (List Nat × Bool) × List Char
  | 0, cs => (([], false), cs)
  | room + 1, cs =>
    match if 0 < room then item ':' index octets cs else none with
    | some (os, rest) => ((pairs os, true), rest)
    | none =>
      match item ':' index (number 16 (Nat.pow 2 16) (some 4) true) cs with
      | none => (([], false), cs)
      | some (g, rest) =>
        let ((gs, embedded), rest) := groups (index + 1) room rest
        ((g :: gs, embedded), rest)

def groupAddress : Reading (List Nat) := fun cs =>
  let ((head, embedded), cs) := groups 0 8 cs
  if head.length = 8 then some (head, cs)
  else if embedded then none
  else do
    let (_, cs) ← mark ':' cs
    let (_, cs) ← mark ':' cs
    let ((tail, _), cs) := groups 0 (7 - head.length) cs
    return (head ++ List.replicate (8 - head.length - tail.length) 0 ++ tail, cs)

def scope (cs : List Char) : Nat × List Char :=
  ((mark '%' cs).bind fun r => number 10 (Nat.pow 2 32) none true r.2).getD (0, cs)

def readV4 : Reading SocketAddress := fun cs => do
  let (os, cs) ← octets cs
  let (p, cs) ← port cs
  return (v4 os p, cs)

def readV6 : Reading SocketAddress := fun cs => do
  let (_, cs) ← mark '[' cs
  let (gs, cs) ← groupAddress cs
  let (s, cs) := scope cs
  let (_, cs) ← mark ']' cs
  let (p, cs) ← port cs
  return (v6 gs s p, cs)

def read? (cs : List Char) : Option SocketAddress :=
  match (readV4 cs).or (readV6 cs) with
  | some (a, []) => some a
  | _ => none

/-! ### Writing -/

def dotted (os : List Nat) : List Char := ['.'].intercalate (os.map Text.decimal)

def colons (gs : List Nat) : List Char := [':'].intercalate (gs.map Text.hexadecimal)

def longestZeros (gs : List Nat) : Nat × Nat :=
  (List.range gs.length).foldl (fun best i =>
    let n := ((gs.drop i).takeWhile (· == 0)).length
    if best.2 < n then (i, n) else best) (0, 0)

def renderGroups (gs : List Nat) : List Char :=
  match gs with
  | [0, 0, 0, 0, 0, 0xffff, x, y] => "::ffff:".toList ++ dotted [x / 256, x % 256, y / 256, y % 256]
  | _ =>
    let (start, n) := longestZeros gs
    if 1 < n then colons (gs.take start) ++ [':', ':'] ++ colons (gs.drop (start + n)) else colons gs

def render : SocketAddress → List Char
  | v4 os p => dotted os ++ ':' :: Text.decimal p
  | v6 gs s p =>
    '[' :: renderGroups gs ++ (if s = 0 then [] else '%' :: Text.decimal s) ++ [']', ':'] ++ Text.decimal p

def text (a : SocketAddress) : String := String.ofList a.render

end SocketAddress

end Passbook
