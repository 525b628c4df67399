import Passbook.Repository.Basic
import Passbook.Work.Task
/-!
The operations of the ledger over any repository. A call that is wrong in itself is refused before its signal is
looked at; every other call is work under the signal, and its result says what is logged.
-/
namespace Passbook

/-- A call of the ledger: refused as it stands, or an operation with what its result logs. -/
inductive Call (σ α : Type) where
  | refused (error : LedgerError)
  | operation (work : Work σ (Except LedgerError α)) (report : Except LedgerError α → List Event)

namespace Call

variable {σ α β : Type}

def outcome (report : Except LedgerError α → List Event) (answer : Except LedgerError α → β)
    (r : Except LedgerError α) : Outcome β := ⟨report r, answer r⟩

def task (call : Call σ α) (signal : Signal) (answer : Except LedgerError α → β) : Task σ β :=
  match call with
  | refused e => .settled ⟨[], answer (.error e)⟩
  | operation work report => .under signal work fun _ => outcome report answer

end Call

namespace Manager

variable {σ : Type}

def relay {α : Type} (work : Work σ (Except StoreError α)) : Work σ (Except LedgerError α) :=
  work.map fun r => r.mapError LedgerError.ofStore

def reportError {α : Type} (operation : Operation) (user : UserId) : Except LedgerError α → List Event
  | .ok _ => []
  | .error e => [.operationFailed operation user e]

def reportCreated (user : UserId) : Except LedgerError User → List Event
  | .ok _ => [.userCreated user]
  | .error e => [.operationFailed .createUser user e]

def createUser (r : Repository σ) (user : UserId) : Call σ User :=
  .operation (relay (r.addUser user)) (reportCreated user)

def reportAdded (t : Transaction) : Except LedgerError Transaction → List Event
  | .ok _ => [.transactionRecorded t]
  | .error .transactionAlreadyExists => [.duplicateRejected t.id]
  | .error e => [.operationFailed .addTransaction t.userId e]

def addTransaction (r : Repository σ) (t : Transaction) : Call σ Transaction :=
  if t.isValid then
    .operation ((relay (r.addTransaction t)).map fun result => result.map fun _ => t) (reportAdded t)
  else .refused .invalidTransaction

def balance (r : Repository σ) (user : UserId) : Call σ Amount :=
  .operation ((relay (r.findUser user)).map fun result => result.map User.balance)
    (reportError .userBalance user)

def historyWork (r : Repository σ) (user : UserId) (page : Page) : Work σ (Except LedgerError (List Transaction)) :=
  (relay (r.findUser user)).bind fun
    | .ok _ => relay (r.history user page)
    | .error e => .done (.error e)

def history (r : Repository σ) (user : UserId) (page size : Nat) : Call σ (List Transaction) :=
  match Page.of? page size with
  | some page => .operation (historyWork r user page) (reportError .userHistory user)
  | none => .refused .invalidPagination

end Manager

end Passbook
