/-!
White space of running text, and cutting it from the ends of a text.
-/
namespace Passbook.Text

/-- The characters with the Unicode property `White_Space`. -/
def isSpace (c : Char) : Bool :=
  let n := c.toNat
  (9 ≤ n && n ≤ 13) || n == 0x20 || n == 0x85 || n == 0xA0 || n == 0x1680 || (0x2000 ≤ n && n ≤ 0x200A) ||
    n == 0x2028 || n == 0x2029 || n == 0x202F || n == 0x205F || n == 0x3000

def trimLeft (cs : List Char) : List Char := cs.dropWhile isSpace

def trim (cs : List Char) : List Char := (trimLeft (trimLeft cs).reverse).reverse

theorem trimLeft_append {s cs : List Char} (h : s.all isSpace = true) : trimLeft (s ++ cs) = trimLeft cs := by
  induction s with
  | nil => rfl
  | cons c s ih =>
    simp only [List.all_cons, Bool.and_eq_true] at h
    simpa [trimLeft, h.1] using ih h.2

theorem trimLeft_cons {c : Char} (cs : List Char) (h : isSpace c = false) : trimLeft (c :: cs) = c :: cs := by
  simp [trimLeft, h]

end Passbook.Text
