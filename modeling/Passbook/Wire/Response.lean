import Passbook.Wire.Stored
/-!
The bodies that the service answers with.
-/
namespace Passbook

open Json

structure CreateUserResponse where
  id : UserId
  deriving DecidableEq, Repr

namespace CreateUserResponse

def record : Record (Option UserId) CreateUserResponse where
  name := "CreateUserResponse"
  start := none
  fields := [.of "id" false Wire.userId (fun d => d) fun v _ => v]
  finish d := CreateUserResponse.mk <$> required "id" d

def decode : Decoder CreateUserResponse := record.decode

def json (r : CreateUserResponse) : String := renderObject [("id", renderText r.id.uuid.text)]

end CreateUserResponse

structure AddTransactionResponse where
  message : String
  transaction : Transaction
  deriving DecidableEq, Repr

structure AddTransactionResponse.Draft where
  message : Option String := none
  transaction : Option Transaction := none
  deriving DecidableEq, Repr

namespace AddTransactionResponse

def Draft.finish (d : Draft) : Except Problem AddTransactionResponse := do
  let message ← required "message" d.message
  let transaction ← required "transaction" d.transaction
  return ⟨message, transaction⟩

def record : Record Draft AddTransactionResponse where
  name := "AddTransactionResponse"
  start := {}
  fields := [
    .of "message" false Wire.text Draft.message fun v d => { d with message := v },
    .of "transaction" false Transaction.decode Draft.transaction fun v d => { d with transaction := v }]
  finish := Draft.finish

def decode : Decoder AddTransactionResponse := record.decode

def json (r : AddTransactionResponse) : String :=
  renderObject [("message", renderText r.message), ("transaction", r.transaction.json)]

end AddTransactionResponse

structure BalanceResponse where
  balance : Amount
  deriving DecidableEq, Repr

namespace BalanceResponse

def record : Record (Option Amount) BalanceResponse where
  name := "BalanceResponse"
  start := none
  fields := [.of "balance" false Wire.storedAmount (fun d => d) fun v _ => v]
  finish d := BalanceResponse.mk <$> required "balance" d

def decode : Decoder BalanceResponse := record.decode

def json (r : BalanceResponse) : String := renderObject [("balance", renderText r.balance.text)]

end BalanceResponse

structure ErrorResponse where
  error : String
  code : String
  deriving DecidableEq, Repr

structure ErrorResponse.Draft where
  error : Option String := none
  code : Option String := none
  deriving DecidableEq, Repr

namespace ErrorResponse

def Draft.finish (d : Draft) : Except Problem ErrorResponse := do
  let error ← required "error" d.error
  let code ← required "code" d.code
  return ⟨error, code⟩

def record : Record Draft ErrorResponse where
  name := "ErrorResponse"
  start := {}
  fields := [
    .of "error" false Wire.text Draft.error fun v d => { d with error := v },
    .of "code" false Wire.text Draft.code fun v d => { d with code := v }]
  finish := Draft.finish

def decode : Decoder ErrorResponse := record.decode

def json (r : ErrorResponse) : String := renderObject [("error", renderText r.error), ("code", renderText r.code)]

end ErrorResponse

def historyJson (ts : List Transaction) : String := renderArray (ts.map Transaction.json)

end Passbook
