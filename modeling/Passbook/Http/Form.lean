import Passbook.Http.Percent
/-!
Forms in a query: pairs of a key and a value, as bytes.
-/
namespace Passbook.Http

def splitAt (separator : UInt8) : List UInt8 → List (List UInt8)
  | [] => [[]]
  | b :: bs =>
    if b = separator then [] :: splitAt separator bs
    else match splitAt separator bs with
      | piece :: pieces => (b :: piece) :: pieces
      | [] => [[b]]

def formText (bs : List UInt8) : List UInt8 :=
  decodePercent (bs.map fun b => if b = '+'.toUInt8 then ' '.toUInt8 else b)

def formPair (piece : List UInt8) : List UInt8 × List UInt8 :=
  (formText (piece.takeWhile (· != '='.toUInt8)), formText (piece.dropWhile (· != '='.toUInt8)).tail)

def formPairs (query : List UInt8) : List (List UInt8 × List UInt8) :=
  ((splitAt '&'.toUInt8 query).filter (!·.isEmpty)).map formPair

end Passbook.Http
