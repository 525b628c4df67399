import Passbook.Amount.Reader
import Passbook.Identity
import Passbook.Instant.Reader
import Passbook.Json.Fraction
import Passbook.Json.Record
import Passbook.Uuid.Reader
/-!
How single values travel: identities, instants and amounts as texts, counts as numbers, and the amount of a request
as a text or a number whose digits are kept.
-/
namespace Passbook

namespace Wire

open Json

def uuid : Decoder Uuid :=
  textual "a formatted UUID string" fun s =>
    (Uuid.read s.toList).mapError fun e => .refused ("UUID parsing failed: " ++ e.message)

def mapDecoder {α β : Type} (f : α → β) (decode : Decoder α) : Decoder β :=
  fun room ts => (decode room ts).map fun r => (f r.1, r.2)

def userId : Decoder UserId := mapDecoder UserId.mk uuid

def transactionId : Decoder TransactionId := mapDecoder TransactionId.mk uuid

def idempotencyKey : Decoder IdempotencyKey := mapDecoder IdempotencyKey.mk uuid

def instant : Decoder Instant :=
  textual "an RFC 3339 formatted date and time string" fun s =>
    (Instant.read s.toList).mapError fun e => .refused e.message

def amountForm : String := "a Decimal type representing a fixed-point number"

def storedAmount : Decoder Amount :=
  textual amountForm fun s => (Amount.readStored? s.toList).elim (.error (.wrongValue (.text s) amountForm)) .ok

def text : Decoder String := textual "a string" .ok

def count : Decoder Nat
  | _, .number digits :: ts =>
    match integer? digits with
    | some (.ofNat n) => .ok (n, ts)
    | some n => unfit (.wrongValue (.integer n) "usize")
    | none =>
      match Fraction.describe? digits.toList with
      | some shown => unfit (.wrongType (.float (String.ofList shown)) "usize")
      | none => .error .malformed
  | _, t :: _ => mismatch "usize" t
  | _, [] => .error .malformed

end Wire

inductive SentAmount where
  | text (content : String)
  | number (digits : String)
  deriving DecidableEq, Repr

namespace SentAmount

def ofValue? : Json.Value → Except Json.Problem SentAmount
  | .text s => .ok (text s)
  | .number digits => .ok (number digits)
  | v => .error (.refused ("amount must be a string or a number, got " ++ v.render))

def decode : Json.Decoder SentAmount := fun room ts =>
  match Json.value room ts with
  | .ok (v, ts) =>
    match ofValue? v with
    | .ok a => .ok (a, ts)
    | .error p => Json.unfit p
  | .error fault => .error fault

def amount? : SentAmount → Option Amount
  | text s => Amount.read? (Text.trim s.toList)
  | number digits => Amount.read? digits.toList

def describe : SentAmount → String
  | text s => "Text(" ++ Text.quoted s ++ ")"
  | number digits => "Number(Number(" ++ digits ++ "))"

end SentAmount

end Passbook
