import Passbook.Wire.Basic
/-!
The bodies and queries that clients send.
-/
namespace Passbook

open Json

structure CreateUserRequest where
  id : Option UserId := none
  deriving DecidableEq, Repr

structure CreateUserRequest.Draft where
  id : Option (Option UserId) := none
  deriving DecidableEq, Repr

namespace CreateUserRequest

def record : Record Draft CreateUserRequest where
  name := "CreateUserRequest"
  start := {}
  fields := [.of "id" true (optional Wire.userId) Draft.id fun v d => { d with id := v }]
  finish d := .ok ⟨d.id.join⟩

def decode : Decoder CreateUserRequest := record.decode

end CreateUserRequest

structure AddTransactionRequest where
  userId : Option UserId
  amount : SentAmount
  idempotencyKey : Option IdempotencyKey
  createdAt : Option Instant
  deriving DecidableEq, Repr

structure AddTransactionRequest.Draft where
  userId : Option (Option UserId) := none
  amount : Option SentAmount := none
  idempotencyKey : Option (Option IdempotencyKey) := none
  createdAt : Option (Option Instant) := none
  deriving DecidableEq, Repr

namespace AddTransactionRequest

def Draft.finish (d : Draft) : Except Problem AddTransactionRequest := do
  let amount ← required "amount" d.amount
  return ⟨d.userId.join, amount, d.idempotencyKey.join, d.createdAt.join⟩

def record : Record Draft AddTransactionRequest where
  name := "AddTransactionRequest"
  start := {}
  fields := [
    .of "user_id" true (optional Wire.userId) Draft.userId fun v d => { d with userId := v },
    .of "amount" false SentAmount.decode Draft.amount fun v d => { d with amount := v },
    .of "idempotency_key" true (optional Wire.idempotencyKey) Draft.idempotencyKey
      fun v d => { d with idempotencyKey := v },
    .of "created_at" true (optional Wire.instant) Draft.createdAt fun v d => { d with createdAt := v }]
  finish := Draft.finish

def decode : Decoder AddTransactionRequest := record.decode

end AddTransactionRequest

structure HistoryQuery where
  page : Option Nat
  pageSize : Option Nat
  deriving DecidableEq, Repr

structure HistoryQuery.Draft where
  page : Option (Option Nat) := none
  pageSize : Option (Option Nat) := none
  deriving DecidableEq, Repr

namespace HistoryQuery

def record : Record Draft HistoryQuery where
  name := "HistoryQuery"
  start := {}
  fields := [
    .of "page" false (optional Wire.count) Draft.page fun v d => { d with page := v },
    .of "pageSize" false (optional Wire.count) Draft.pageSize fun v d => { d with pageSize := v }]
  finish d := .ok ⟨d.page.join, d.pageSize.join⟩

def decode : Decoder HistoryQuery := record.decode

end HistoryQuery

end Passbook
