import Passbook.Amount.Basic
import Passbook.Text.Utf8
import Passbook.Uuid.Basic
/-!
The three kinds of identity, and the identity of a transaction as a function of the request that makes it: one key,
one user and one value of the amount give one transaction, however often they are sent.
-/
namespace Passbook

structure UserId where
  uuid : Uuid
  deriving DecidableEq, Repr, Inhabited

structure IdempotencyKey where
  uuid : Uuid
  deriving DecidableEq, Repr, Inhabited

structure TransactionId where
  uuid : Uuid
  deriving DecidableEq, Repr, Inhabited

instance : ToString UserId := ⟨fun u => u.uuid.text⟩
instance : ToString IdempotencyKey := ⟨fun k => k.uuid.text⟩
instance : ToString TransactionId := ⟨fun t => t.uuid.text⟩

namespace TransactionId

def name (user : UserId) (amount : Amount) : List UInt8 :=
  user.uuid.bytes ++ Utf8.encode amount.normalize.text

def derive (key : IdempotencyKey) (user : UserId) (amount : Amount) : TransactionId :=
  ⟨Uuid.ofName key.uuid (name user amount)⟩

end TransactionId

end Passbook
