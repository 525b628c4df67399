import Passbook.Text.Digits
/-!
Amounts of money: a whole coefficient of at most 96 bits over a power of ten of at most 28. Two amounts can have
one value and different scales, and the scale is kept, for it is what is printed.
-/
namespace Passbook

namespace Amount

def limit : Nat := Nat.pow 2 96

def maxScale : Nat := 28

end Amount

structure Amount where
  coefficient : Int
  scale : Nat
  coefficient_lt : coefficient.natAbs < Amount.limit
  scale_le : scale ≤ Amount.maxScale
  deriving DecidableEq, Repr

namespace Amount

theorem ext {a b : Amount} (hc : a.coefficient = b.coefficient) (hs : a.scale = b.scale) : a = b := by
  cases a; cases b; simp_all

def of? (coefficient : Int) (scale : Nat) : Option Amount :=
  if h : coefficient.natAbs < limit ∧ scale ≤ maxScale then some ⟨coefficient, scale, h.1, h.2⟩ else none

theorem of?_eq_some_iff {c : Int} {s : Nat} {a : Amount} :
    of? c s = some a ↔ a.coefficient = c ∧ a.scale = s := by
  unfold of?
  split
  · rename_i h
    constructor
    · intro e; cases e; exact ⟨rfl, rfl⟩
    · rintro ⟨rfl, rfl⟩; rfl
  · rename_i h
    constructor
    · intro e; cases e
    · rintro ⟨rfl, rfl⟩; exact absurd ⟨a.coefficient_lt, a.scale_le⟩ h

def zero : Amount := ⟨0, 0, by decide, by decide⟩

def max : Amount := ⟨limit - 1, 0, by decide, by decide⟩

instance : Inhabited Amount := ⟨zero⟩

def value (a : Amount) : Rat := (a.coefficient : Rat) / (Nat.pow 10 a.scale : Rat)

def coefficientAt (a : Amount) (scale : Nat) : Int := a.coefficient * Nat.pow 10 (scale - a.scale)

theorem coefficientAt_scale (a : Amount) : a.coefficientAt a.scale = a.coefficient := by
  simp [coefficientAt]

def compare (a b : Amount) : Ordering :=
  Ord.compare (a.coefficientAt (Nat.max a.scale b.scale)) (b.coefficientAt (Nat.max a.scale b.scale))

def sameValue (a b : Amount) : Bool := a.compare b == .eq

def isPositive (a : Amount) : Bool := decide (0 < a.coefficient)

def strip : Int → Nat → Int × Nat
  | c, 0 => (c, 0)
  | c, s + 1 => if c % 10 = 0 then strip (c / 10) s else (c, s + 1)

theorem natAbs_strip_le (c : Int) (s : Nat) : (strip c s).1.natAbs ≤ c.natAbs ∧ (strip c s).2 ≤ s := by
  induction s generalizing c with
  | zero => exact ⟨Nat.le_refl _, Nat.le_refl _⟩
  | succ s ih =>
    unfold strip
    split
    · have := ih (c / 10)
      omega
    · exact ⟨Nat.le_refl _, Nat.le_refl _⟩

def normalize (a : Amount) : Amount where
  coefficient := (strip a.coefficient a.scale).1
  scale := (strip a.coefficient a.scale).2
  coefficient_lt := Nat.lt_of_le_of_lt (natAbs_strip_le _ _).1 a.coefficient_lt
  scale_le := Nat.le_trans (natAbs_strip_le _ _).2 a.scale_le

def renderDigits (n scale : Nat) : List Char :=
  let digits := Text.zeroPadded (scale + 1) (Text.decimal n)
  let whole := digits.take (digits.length - scale)
  if scale = 0 then whole else whole ++ '.' :: digits.drop (digits.length - scale)

def render (a : Amount) : List Char :=
  (if a.coefficient < 0 then ['-'] else []) ++ renderDigits a.coefficient.natAbs a.scale

def text (a : Amount) : String := String.ofList a.render

instance : ToString Amount := ⟨text⟩

end Amount

end Passbook
