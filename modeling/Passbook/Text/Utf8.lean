/-!
Texts and their UTF-8 bytes.
-/
namespace Passbook.Utf8

def encode (s : String) : List UInt8 := s.toUTF8.data.toList

def decode? (bytes : List UInt8) : Option String := String.fromUTF8? ⟨bytes.toArray⟩

theorem decode?_encode (s : String) : decode? (encode s) = some s := by
  simp only [decode?, encode, String.fromUTF8?, String.toUTF8_eq_toByteArray, Array.toArray_toList,
    dif_pos s.isValidUTF8]
  rfl

def size (cs : List Char) : Nat := cs.foldr (fun c n => c.utf8Size + n) 0

end Passbook.Utf8
