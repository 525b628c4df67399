import Passbook.Amount.Basic
import Passbook.Text.Space
/-!
Reading amounts. Three grammars share the digits: an exact one that refuses what it cannot hold, a rounding one
that gives up the places it cannot hold, and a scientific one, a rounded numeral before a power of ten.
-/
namespace Passbook.Amount

structure Numeral where
  mantissa : Nat := 0
  scale : Nat := 0
  pointed : Bool := false
  started : Bool := false
  deriving DecidableEq, Repr

namespace Numeral

def isFull (n : Numeral) : Bool := n.scale == maxScale

def pushDigit (n : Numeral) (d : Nat) : Numeral :=
  { n with mantissa := 10 * n.mantissa + d, scale := if n.pointed then n.scale + 1 else n.scale, started := true }

def holds (n : Numeral) : Bool := n.mantissa < limit && n.scale ≤ maxScale

def pushMark (n : Numeral) (c : Char) : Option Numeral :=
  if c = '.' && !n.pointed then some { n with pointed := true }
  else if c = '_' && n.started then some n
  else none

def exactStep (n : Numeral) (c : Char) : Option Numeral :=
  if n.isFull then none
  else match Text.digit? c with
    | some d => if (n.pushDigit d).holds then some (n.pushDigit d) else none
    | none => n.pushMark c

def whole? (cs : List Char) : Option Numeral := (cs.foldlM exactStep {}).filter Numeral.started

/-- The numeral with its last place raised when the first place that was left out is five or more. A mantissa
that outgrows the limit this way gives up one more place. -/
def roundUp? (n : Numeral) (d : Nat) : Option Numeral :=
  if d < 5 then some n
  else if n.mantissa + 1 < limit then some { n with mantissa := n.mantissa + 1 }
  else if n.scale = 0 then none
  else some { n with mantissa := (n.mantissa + 5) / 10, scale := n.scale - 1 }

def isTail (c : Char) : Bool := c.isDigit || c == '_'

def rounded? (n : Numeral) : List Char → Option Numeral
  | [] => if n.started then some n else none
  | c :: cs =>
    match Text.digit? c with
    | some d =>
      if (n.pushDigit d).holds then rounded? (n.pushDigit d) cs
      else if n.pointed && cs.all isTail then n.roundUp? d
      else none
    | none => (n.pushMark c).bind fun n => rounded? n cs

end Numeral

def signed (cs : List Char) : Bool × List Char :=
  match cs with
  | '-' :: cs => (true, cs)
  | '+' :: cs => (false, cs)
  | cs => (false, cs)

def withSign? (negative : Bool) (mantissa scale : Nat) : Option Amount :=
  of? (if negative then -(mantissa : Int) else mantissa) scale

def readExact? (cs : List Char) : Option Amount :=
  (Numeral.whole? (signed cs).2).bind fun n => withSign? (signed cs).1 n.mantissa n.scale

def readRounded? (cs : List Char) : Option Amount :=
  (Numeral.rounded? {} (signed cs).2).bind fun n => withSign? (signed cs).1 n.mantissa n.scale

def exponent? : List Char → Option (Bool × Nat)
  | '-' :: cs => (Text.unsigned? (Nat.pow 2 32) cs).toOption.map (true, ·)
  | cs => (Text.unsigned? (Nat.pow 2 32) cs).toOption.map (false, ·)

def shift? (a : Amount) (negative : Bool) (e : Nat) : Option Amount :=
  if negative then
    if maxScale < e then none else of? a.coefficient (a.scale + e)
  else if e ≤ a.scale then of? a.coefficient (a.scale - e)
  else if maxScale < e then none
  else of? (a.coefficient * Nat.pow 10 (e - a.scale)) 0

def isExponentMark (c : Char) : Bool := c == 'e' || c == 'E'

def readScientific? (cs : List Char) : Option Amount :=
  match cs.dropWhile (!isExponentMark ·) with
  | [] => none
  | _ :: power => do
    let base ← readRounded? (cs.takeWhile (!isExponentMark ·))
    let (negative, e) ← exponent? power
    base.shift? negative e

def read? (cs : List Char) : Option Amount := (readExact? cs).or (readScientific? cs)

/-- The amount in a stored record, where a numeral with too many places is rounded. -/
def readStored? (cs : List Char) : Option Amount := (readRounded? cs).or (readScientific? cs)

end Passbook.Amount
