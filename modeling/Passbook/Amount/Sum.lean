import Passbook.Amount.Basic
/-!
Sums of amounts. A sum that needs more than 96 bits gives up decimal places, half to even, and fails only when no
place is left to give.
-/
namespace Passbook.Amount

def roundHalfEven (n d : Nat) : Nat :=
  let q := n / d
  let r := n % d
  if d < 2 * r ∨ (d = 2 * r ∧ q % 2 = 1) then q + 1 else q

theorem roundHalfEven_one (n : Nat) : roundHalfEven n 1 = n := by
  simp [roundHalfEven, Nat.mod_one]

def roundedQuotient (c : Int) (d : Nat) : Int := c.sign * roundHalfEven c.natAbs d

theorem roundedQuotient_one (c : Int) : roundedQuotient c 1 = c := by
  rw [roundedQuotient, roundHalfEven_one, Int.sign_mul_natAbs]

/-- The amount with the most decimal places, at most `scale`, that holds `c` over ten to the `scale`. -/
def fit? (c : Int) (scale : Nat) : Option Amount :=
  (List.range (scale + 1)).findSome? fun dropped => of? (roundedQuotient c (Nat.pow 10 dropped)) (scale - dropped)

def add? (a b : Amount) : Option Amount :=
  if a.coefficient = 0 then some b
  else if b.coefficient = 0 then some a
  else
    let scale := Nat.max a.scale b.scale
    fit? (a.coefficientAt scale + b.coefficientAt scale) scale

def sum? (amounts : List Amount) : Option Amount := amounts.foldlM add? zero

theorem sum?_append (xs ys : List Amount) : sum? (xs ++ ys) = (sum? xs).bind fun a => ys.foldlM add? a := by
  simp [sum?, List.foldlM_append, Option.bind_eq_bind]

end Passbook.Amount
