import Passbook.Text.Digits
/-!
Numbers that are no counts. They are held as binary fractions of 64 bits and shown in the fewest decimal digits that
stand for the same fraction: plainly for exponents from -5 to 15, else with an exponent.
-/
namespace Passbook.Json

/-- A fraction as `mantissa * 2 ^ exponent`. The gap below a power of two is half the gap above it. -/
structure Fraction where
  mantissa : Nat
  exponent : Int
  isNarrow : Bool
  deriving DecidableEq, Repr

namespace Fraction

def ofBits (bits : UInt64) : Fraction :=
  let e := ((bits >>> 52) &&& 0x7FF).toNat
  let f := (bits &&& 0xFFFFFFFFFFFFF).toNat
  if e = 0 then ⟨f, -1074, false⟩ else ⟨Nat.pow 2 52 + f, e - 1075, f = 0 && 1 < e⟩

def compareScaled (a : Nat) (i : Int) (n : Nat) (j : Int) : Ordering :=
  compare (a * Nat.pow 10 i.toNat * Nat.pow 2 (-j).toNat) (n * Nat.pow 2 j.toNat * Nat.pow 10 (-i).toNat)

def isNear (x : Fraction) (digits : Nat) (i : Int) : Bool :=
  let low := compareScaled digits i (4 * x.mantissa - if x.isNarrow then 1 else 2) (x.exponent - 2)
  let high := compareScaled digits i (4 * x.mantissa + 2) (x.exponent - 2)
  let isEven := x.mantissa % 2 == 0
  (low == .gt || (isEven && low == .eq)) && (high == .lt || (isEven && high == .eq))

def quotient (x : Fraction) (i : Int) : Nat :=
  x.mantissa * Nat.pow 2 x.exponent.toNat * Nat.pow 10 (-i).toNat /
    (Nat.pow 2 (-x.exponent).toNat * Nat.pow 10 i.toNat)

def compareMiddle (x : Fraction) (digits : Nat) (i : Int) : Ordering :=
  compareScaled (2 * digits + 1) i (2 * x.mantissa) x.exponent

def digitsAt? (x : Fraction) (i : Int) : Option Nat :=
  let d := x.quotient i
  match x.isNear d i, x.isNear (d + 1) i with
  | true, true =>
    match x.compareMiddle d i with
    | .lt => some (d + 1)
    | .gt => some d
    | .eq => some (if d % 2 = 0 then d else d + 1)
  | true, false => some d
  | false, true => some (d + 1)
  | false, false => none

def scales : List Int := (List.range 650).map fun (n : Nat) => 310 - (n : Int)

def shortest (x : Fraction) : Nat × Int :=
  if x.mantissa = 0 then (0, 0)
  else (scales.findSome? fun i => ((x.digitsAt? i).filter (0 < ·)).map (·, i)).getD (x.quotient 0, 0)

def renderPlain (ds : List Char) (point : Int) : List Char :=
  if point ≤ 0 then '0' :: '.' :: List.replicate (-point).toNat '0' ++ ds
  else if ds.length ≤ point.toNat then ds ++ List.replicate (point.toNat - ds.length) '0' ++ ['.', '0']
  else ds.take point.toNat ++ '.' :: ds.drop point.toNat

def renderScientific (ds : List Char) (power : Int) : List Char :=
  let fraction := if ds.length ≤ 1 then [] else '.' :: ds.drop 1
  ds.take 1 ++ fraction ++ ['e', if power < 0 then '-' else '+'] ++ Text.decimal power.natAbs

def render (x : Fraction) : List Char :=
  let (n, i) := x.shortest
  let ds := Text.decimal n
  let point := if n = 0 then 1 else ds.length + i
  if -5 < point ∧ point ≤ 16 then renderPlain ds point else renderScientific ds (point - 1)

structure Draft where
  significand : Nat := 0
  power : Int := 0
  isFull : Bool := false
  deriving DecidableEq, Repr

namespace Draft

def fits (d : Draft) (digit : Nat) : Bool := 10 * d.significand + digit < Nat.pow 2 64

def pushWhole (d : Draft) (digit : Nat) : Draft :=
  if !d.isFull && d.fits digit then { d with significand := 10 * d.significand + digit }
  else { d with power := d.power + 1, isFull := true }

def pushFraction (d : Draft) (digit : Nat) : Draft :=
  if !d.isFull && d.fits digit then ⟨10 * d.significand + digit, d.power - 1, false⟩ else { d with isFull := true }

def scale : Nat → Float → Int → Option Float
  | 0, f, _ => some f
  | steps + 1, f, power =>
    if power.natAbs ≤ 308 then
      let scaled := if 0 ≤ power then f * Float.ofScientific 1 false power.toNat
        else f / Float.ofScientific 1 false power.natAbs
      if scaled.isInf then none else some scaled
    else if f == 0 then some f
    else if 0 ≤ power then none
    else scale steps (f / Float.ofScientific 1 false 308) (power + 308)

def value? (d : Draft) (exponent : Int) : Option Float := scale 4 d.significand.toUInt64.toFloat (d.power + exponent)

end Draft

def digitsOf (cs : List Char) : List Nat := cs.filterMap Text.digit?

def describe? (text : List Char) : Option (List Char) :=
  let isNegative := text.head? = some '-'
  let cs := if isNegative then text.tail else text
  let base := cs.takeWhile (· != 'e')
  let whole := base.takeWhile (· != '.')
  let draft := (digitsOf whole).foldl Draft.pushWhole {}
  let draft := (digitsOf (base.drop whole.length)).foldl Draft.pushFraction { draft with isFull := false }
  let size : Nat := (digitsOf (cs.drop base.length)).foldl (fun n d => 10 * n + d) 0
  let exponent := if (cs.drop base.length).contains '-' then -(size : Int) else size
  (draft.value? exponent).map fun f =>
    (if isNegative then ['-'] else []) ++ (ofBits f.toBits).render

end Fraction

end Passbook.Json
