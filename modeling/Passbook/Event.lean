import Passbook.Transaction
/-!
What the ledger tells its log.
-/
namespace Passbook

inductive Operation where
  | createUser
  | addTransaction
  | userBalance
  | userHistory
  deriving DecidableEq, Repr

def Operation.name : Operation → String
  | .createUser => "create_user"
  | .addTransaction => "add_transaction"
  | .userBalance => "get_user_balance"
  | .userHistory => "get_user_transaction_history"

inductive Event where
  | userCreated (user : UserId)
  | transactionRecorded (t : Transaction)
  | duplicateRejected (id : TransactionId)
  | operationFailed (operation : Operation) (user : UserId) (error : LedgerError)
  | amountUnreadable (amount : String)
  deriving DecidableEq, Repr

inductive Severity where
  | debug
  | warn
  deriving DecidableEq, Repr

namespace Event

def severity : Event → Severity
  | operationFailed _ _ e => if e.isFailure then .warn else .debug
  | _ => .debug

def message : Event → String
  | userCreated _ => "user created"
  | transactionRecorded _ => "transaction recorded"
  | duplicateRejected _ => "duplicate transaction rejected"
  | operationFailed _ _ e => if e.isFailure then "ledger operation failed" else "ledger operation rejected"
  | amountUnreadable _ => "unparseable amount"

def fields : Event → List (String × String)
  | userCreated user => [("user_id", user.uuid.text)]
  | transactionRecorded t =>
    [("transaction_id", t.id.uuid.text), ("user_id", t.userId.uuid.text), ("amount", t.amount.text)]
  | duplicateRejected id => [("transaction_id", id.uuid.text)]
  | operationFailed operation user e =>
    [("operation", operation.name), ("user_id", user.uuid.text), ("error", e.message)]
  | amountUnreadable amount => [("amount", amount)]

end Event

end Passbook
