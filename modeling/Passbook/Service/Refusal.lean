import Passbook.Event
import Passbook.Http.Message
import Passbook.Wire.Response
/-!
How the service says no: each refusal has a status, a code for programs and a message for people.
-/
namespace Passbook

namespace LedgerError

def status : LedgerError → Nat
  | invalidTransaction => 400
  | invalidPagination => 400
  | transactionAlreadyExists => 409
  | userAlreadyExists => 409
  | userNotFound => 404
  | cancelled => 503
  | deadlineExceeded => 504
  | storage _ => 500

def code : LedgerError → String
  | invalidTransaction => "INVALID_TRANSACTION"
  | invalidPagination => "INVALID_PAGINATION"
  | transactionAlreadyExists => "TRANSACTION_ALREADY_EXISTS"
  | userAlreadyExists => "USER_ALREADY_EXISTS"
  | userNotFound => "USER_NOT_FOUND"
  | cancelled => "CANCELLED"
  | deadlineExceeded => "DEADLINE_EXCEEDED"
  | storage _ => "STORAGE_FAILURE"

end LedgerError

inductive Refusal where
  | userId (reason : String)
  | body (reason : String)
  | query (reason : String)
  | userMismatch
  | amount (sent : SentAmount)
  | ledger (error : LedgerError)
  | oversized
  deriving DecidableEq, Repr

namespace Refusal

def status : Refusal → Nat
  | ledger e => e.status
  | oversized => 413
  | _ => 400

def code : Refusal → String
  | userId _ => "INVALID_USER_ID"
  | body _ => "INVALID_BODY"
  | query _ => "INVALID_QUERY"
  | userMismatch => "USER_MISMATCH"
  | amount _ => "INVALID_AMOUNT"
  | ledger e => e.code
  | oversized => "INVALID_BODY"

def oversizedMessage : String := "Failed to buffer the request body: length limit exceeded"

def message : Refusal → String
  | userId reason => reason
  | body reason => reason
  | query reason => reason
  | userMismatch => "user_id in body does not match path"
  | amount _ => "amount is not a decimal number"
  | ledger e => e.message
  | oversized => oversizedMessage

def response (r : Refusal) : Http.Response :=
  match r with
  | oversized => ⟨r.status, some "text/plain; charset=utf-8", none, r.message⟩
  | _ => .json r.status (ErrorResponse.json ⟨r.message, r.code⟩)

def events : Refusal → List Event
  | amount sent => [.amountUnreadable sent.describe]
  | _ => []

end Refusal

end Passbook
