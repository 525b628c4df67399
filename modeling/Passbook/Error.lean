import Passbook.Identity
/-!
What can go wrong: in the store, and in the ledger in front of it.
-/
namespace Passbook

inductive StoreError where
  | conflict (id : TransactionId)
  | userExists (user : UserId)
  | notFound
  | balanceOverflow (user : UserId)
  | unavailable (reason : String)
  | backend (reason : String)
  deriving DecidableEq, Repr

def StoreError.message : StoreError → String
  | .conflict id => "transaction " ++ id.uuid.text ++ " already recorded"
  | .userExists user => "user " ++ user.uuid.text ++ " already registered"
  | .notFound => "record not found"
  | .balanceOverflow user => "balance of user " ++ user.uuid.text ++ " would overflow"
  | .unavailable reason => "store unavailable: " ++ reason
  | .backend reason => "store failure: " ++ reason

inductive LedgerError where
  | invalidTransaction
  | transactionAlreadyExists
  | userNotFound
  | userAlreadyExists
  | invalidPagination
  | cancelled
  | deadlineExceeded
  | storage (cause : StoreError)
  deriving DecidableEq, Repr

namespace LedgerError

def message : LedgerError → String
  | invalidTransaction => "invalid transaction"
  | transactionAlreadyExists => "transaction already exists"
  | userNotFound => "user not found"
  | userAlreadyExists => "user already exists"
  | invalidPagination => "invalid pagination (page and page size must be positive)"
  | cancelled => "operation cancelled"
  | deadlineExceeded => "deadline exceeded"
  | storage cause => cause.message

def ofStore : StoreError → LedgerError
  | .conflict _ => transactionAlreadyExists
  | .userExists _ => userAlreadyExists
  | .notFound => userNotFound
  | cause => storage cause

def isFailure : LedgerError → Bool
  | storage _ | cancelled | deadlineExceeded => true
  | _ => false

end LedgerError

end Passbook
