import Passbook.Transaction
import Passbook.Wire.Basic
/-!
How the records of the ledger travel: as objects with their fields in order.
-/
namespace Passbook

open Json

structure Transaction.Draft where
  id : Option TransactionId := none
  userId : Option UserId := none
  amount : Option Amount := none
  createdAt : Option Instant := none
  idempotencyKey : Option IdempotencyKey := none
  deriving DecidableEq, Repr

namespace Transaction

def Draft.finish (d : Draft) : Except Problem Transaction := do
  let id ← required "id" d.id
  let userId ← required "user_id" d.userId
  let amount ← required "amount" d.amount
  let createdAt ← required "created_at" d.createdAt
  let key ← required "idempotency_key" d.idempotencyKey
  return ⟨id, userId, amount, createdAt, key⟩

def record : Record Draft Transaction where
  name := "Transaction"
  start := {}
  fields := [
    .of "id" false Wire.transactionId Draft.id fun v d => { d with id := v },
    .of "user_id" false Wire.userId Draft.userId fun v d => { d with userId := v },
    .of "amount" false Wire.storedAmount Draft.amount fun v d => { d with amount := v },
    .of "created_at" false Wire.instant Draft.createdAt fun v d => { d with createdAt := v },
    .of "idempotency_key" false Wire.idempotencyKey Draft.idempotencyKey fun v d => { d with idempotencyKey := v }]
  finish := Draft.finish

def decode : Decoder Transaction := record.decode

def json (t : Transaction) : String :=
  renderObject [
    ("id", renderText t.id.uuid.text),
    ("user_id", renderText t.userId.uuid.text),
    ("amount", renderText t.amount.text),
    ("created_at", renderText t.createdAt.text),
    ("idempotency_key", renderText t.idempotencyKey.uuid.text)]

end Transaction

structure User.Draft where
  id : Option UserId := none
  balance : Option Amount := none
  deriving DecidableEq, Repr

namespace User

def Draft.finish (d : Draft) : Except Problem User := do
  let id ← required "id" d.id
  let balance ← required "balance" d.balance
  return ⟨id, balance⟩

def record : Record Draft User where
  name := "User"
  start := {}
  fields := [
    .of "id" false Wire.userId Draft.id fun v d => { d with id := v },
    .of "balance" false Wire.storedAmount Draft.balance fun v d => { d with balance := v }]
  finish := Draft.finish

def decode : Decoder User := record.decode

def json (u : User) : String :=
  renderObject [("id", renderText u.id.uuid.text), ("balance", renderText u.balance.text)]

end User

end Passbook
