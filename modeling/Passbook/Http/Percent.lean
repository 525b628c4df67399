import Passbook.Text.Digits
/-!
Percent signs with two hexadecimal digits stand for bytes. A sign without them stands for itself.
-/
namespace Passbook.Http

def hexByte? (b : UInt8) : Option Nat := Text.hexDigit? (Char.ofNat b.toNat)

def decodePercent : List UInt8 → List UInt8
  | [] => []
  | b :: bs =>
    if b = '%'.toUInt8 then
      match bs with
      | x :: y :: rest =>
        match hexByte? x, hexByte? y with
        | some h, some l => UInt8.ofNat (16 * h + l) :: decodePercent rest
        | _, _ => b :: decodePercent (x :: y :: rest)
      | short => b :: short
    else b :: decodePercent bs

end Passbook.Http
