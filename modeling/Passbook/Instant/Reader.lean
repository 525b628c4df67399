import Passbook.Instant.Basic
import Passbook.Text.Space
import Passbook.Text.Utf8
/-!
Reading an instant from a date, a time of day and an offset from universal time. White space may stand before most
parts. A part outside its range is refused where it stands, an impossible date or an instant out of range at the end.
-/
namespace Passbook.Instant

inductive ReadError where
  | short
  | character
  | range
  | trailing
  | impossible
  deriving DecidableEq, Repr

def ReadError.message : ReadError → String
  | .short => "premature end of input"
  | .character => "input contains invalid characters"
  | .range => "input is out of range"
  | .trailing => "trailing input"
  | .impossible => "no possible date and time matching input"

abbrev Reading (α : Type) := List Char → Except ReadError (α × List Char)

def digits (width : Option Nat) (value : Nat) : Reading Nat
  | [] => .ok (value, [])
  | c :: cs =>
    if width = some 0 then .ok (value, c :: cs)
    else match Text.digit? c with
      | none => .ok (value, c :: cs)
      | some d =>
        if 10 * value + d < Nat.pow 2 63 then digits (width.map (· - 1)) (10 * value + d) cs else .error .range

def number (width : Option Nat) : Reading Nat
  | [] => .error .short
  | c :: cs => if c.isDigit then digits width 0 (c :: cs) else .error .character

def numberIn (width low high : Nat) : Reading Nat := fun cs => do
  let (n, rest) ← number (some width) (Text.trimLeft cs)
  if low ≤ n && n ≤ high then .ok (n, rest) else .error .range

def mark (expected : Char) : Reading Unit := fun cs =>
  match Text.trimLeft cs with
  | [] => .error .short
  | c :: rest => if c = expected then .ok ((), rest) else .error .character

def year : Reading Int := fun cs => do
  let (y, rest) ← match Text.trimLeft cs with
    | '-' :: cs => (number none cs).map fun p => (-(p.1 : Int), p.2)
    | '+' :: cs => (number none cs).map fun p => ((p.1 : Int), p.2)
    | cs => (number (some 4) cs).map fun p => ((p.1 : Int), p.2)
  if -Int.pow 2 31 ≤ y && y < Int.pow 2 31 then .ok (y, rest) else .error .range

def separator : Reading Unit
  | [] => .error .short
  | c :: cs => if c = 'T' || c = 't' || c = ' ' then .ok ((), cs) else .error .character

def fraction : Reading Nat
  | '.' :: cs => do
    let (_, rest) ← number (some 9) cs
    let written := cs.take (cs.length - rest.length)
    let (value, _) ← digits none 0 written
    .ok (value * Nat.pow 10 (9 - written.length), rest.dropWhile Char.isDigit)
  | cs => .ok (0, cs)

def twoDigits : Reading (Nat × Nat) := fun cs =>
  if Utf8.size cs < 2 then .error .short
  else match cs with
    | a :: b :: rest =>
      match Text.digit? a, Text.digit? b with
      | some m, some n => .ok ((m, n), rest)
      | _, _ => .error .character
    | _ => .error .character

def startsAsUtc (cs : List Char) : Bool := (cs.take 3).map Char.toUpper == ['U', 'T', 'C']

def offset : Reading Int := fun cs =>
  if startsAsUtc cs then .ok (0, cs.drop 3)
  else match cs with
    | [] => .error .short
    | c :: cs =>
      if c = 'Z' || c = 'z' then .ok (0, cs)
      else if c = '+' || c = '-' || c = '\u2212' then do
        let ((h, h'), cs) ← twoDigits cs
        let ((m, m'), cs) ← twoDigits (cs.dropWhile fun c => c == ':' || Text.isSpace c)
        if 5 < m then .error .range
        else
          let size : Int := (10 * h + h') * 3600 + (10 * m + m') * 60
          .ok (if c = '+' then size else -size, cs)
      else .error .character

structure Parts where
  year : Int
  month : Nat
  day : Nat
  hour : Nat
  minute : Nat
  second : Nat
  nanos : Nat
  offset : Int
  deriving DecidableEq, Repr

def parts : Reading Parts := fun cs => do
  let (y, cs) ← year cs
  let (_, cs) ← mark '-' cs
  let (mo, cs) ← numberIn 2 1 12 cs
  let (_, cs) ← mark '-' cs
  let (d, cs) ← numberIn 2 1 31 cs
  let (_, cs) ← separator cs
  let (h, cs) ← numberIn 2 0 23 cs
  let (_, cs) ← mark ':' cs
  let (mi, cs) ← numberIn 2 0 59 cs
  let (_, cs) ← mark ':' cs
  let (s, cs) ← numberIn 2 0 60 cs
  let (n, cs) ← fraction cs
  let (o, cs) ← offset (Text.trimLeft cs)
  .ok (⟨y, mo, d, h, mi, s, n, o⟩, cs)

def Parts.resolve (p : Parts) : Except ReadError Instant :=
  if p.year < Calendar.minYear ∨ Calendar.maxYear < p.year ∨ Calendar.daysInMonth p.year p.month < p.day then
    .error .range
  else if 86400 ≤ p.offset.natAbs then .error .range
  else
    let clock : Int := p.hour * 3600 + p.minute * 60 + (if p.second = 60 then 59 else p.second)
    let nanos := p.nanos + if p.second = 60 then Instant.second else 0
    (of? (Calendar.dayNumber p.year p.month p.day * 86400 + clock - p.offset) nanos).elim (.error .impossible) .ok

def read (cs : List Char) : Except ReadError Instant := do
  let (p, rest) ← parts cs
  if (Text.trimLeft rest).isEmpty then p.resolve else .error .trailing

end Passbook.Instant
