/-!
Digits and unsigned numbers: the value of a digit, decimal and hexadecimal writing, and the reader of numbers
that have to stay below a bound.
-/
namespace Passbook.Text

def digit? (c : Char) : Option Nat := if c.isDigit then some (c.toNat - 48) else none

def hexDigit? (c : Char) : Option Nat :=
  if c.isDigit then some (c.toNat - 48)
  else if 'a' ≤ c ∧ c ≤ 'f' then some (c.toNat - 87)
  else if 'A' ≤ c ∧ c ≤ 'F' then some (c.toNat - 55)
  else none

def decimal (n : Nat) : List Char := Nat.toDigits 10 n

def hexadecimal (n : Nat) : List Char := Nat.toDigits 16 n

def zeroPadded (width : Nat) (cs : List Char) : List Char := List.replicate (width - cs.length) '0' ++ cs

theorem length_zeroPadded (width : Nat) (cs : List Char) :
    (zeroPadded width cs).length = max width cs.length := by
  simp [zeroPadded]; omega

inductive UnsignedError where
  | empty
  | invalidDigit
  | tooLarge
  deriving DecidableEq, Repr

def UnsignedError.message : UnsignedError → String
  | .empty => "cannot parse integer from empty string"
  | .invalidDigit => "invalid digit found in string"
  | .tooLarge => "number too large to fit in target type"

def unsignedStep (bound value : Nat) (c : Char) : Except UnsignedError Nat :=
  match digit? c with
  | none => .error .invalidDigit
  | some d => if 10 * value + d < bound then .ok (10 * value + d) else .error .tooLarge

def unsigned? (bound : Nat) : List Char → Except UnsignedError Nat
  | [] => .error .empty
  | ['+'] => .error .invalidDigit
  | '+' :: cs => cs.foldlM (unsignedStep bound) 0
  | cs => cs.foldlM (unsignedStep bound) 0

end Passbook.Text
