import Passbook.Manager
import Passbook.Service.Input
import Passbook.Service.Route
/-!
The service: a request is read stage by stage, the first stage that fails refuses it, and what it asks is done by the
ledger under a signal with the deadline of the service.
-/
namespace Passbook

/-- The values that the service makes up for one request, where the client leaves them out. -/
structure Minted where
  user : UserId
  key : IdempotencyKey
  now : Instant
  deriving DecidableEq, Repr

structure Service (σ : Type) where
  repository : Repository σ
  timeout : Option Nat := some 5000

namespace Service

variable {σ : Type}

def signal (s : Service σ) (base : Signal) (m : Moment) : Signal :=
  s.timeout.elim base (base.withTimeout m)

def refuse (r : Refusal) : Task σ Http.Response := .settled ⟨r.events, r.response⟩

def proceed {α : Type} (stages : Except Refusal α) (next : α → Task σ Http.Response) : Task σ Http.Response :=
  match stages with
  | .ok a => next a
  | .error r => refuse r

def answer {α : Type} (status : Nat) (body : α → String) : Except LedgerError α → Http.Response
  | .ok a => .json status (body a)
  | .error e => (Refusal.ledger e).response

/-! ### Stages -/

def newUser (minted : Minted) (body : List UInt8) : Except Refusal UserId := do
  let request ← Input.newUser body
  return request.id.getD minted.user

def matchUser (user : UserId) (request : AddTransactionRequest) : Except Refusal Unit :=
  if request.userId.any (· ≠ user) then .error .userMismatch else .ok ()

def readAmount (sent : SentAmount) : Except Refusal Amount := sent.amount?.elim (.error (.amount sent)) .ok

def deposit (minted : Minted) (id : List UInt8) (request : Http.Request) : Except Refusal Transaction := do
  let user ← Input.userId id
  let body ← Input.deposit request.contentType request.body
  matchUser user body
  let amount ← readAmount body.amount
  return .ofRequest (body.idempotencyKey.getD minted.key) user amount (body.createdAt.getD minted.now)

def historyPage (id : List UInt8) (query : Option (List UInt8)) : Except Refusal (UserId × Nat × Nat) := do
  let user ← Input.userId id
  let q ← Input.historyQuery query
  return (user, q.page.getD Page.first.number, q.pageSize.getD Page.first.size)

/-! ### Requests -/

def addedMessage : String := "Transaction successfully added"

def perform (s : Service σ) (minted : Minted) (signal : Signal) (request : Http.Request) :
    Route → Task σ Http.Response
  | .users =>
    proceed (newUser minted request.body) fun user =>
      (Manager.createUser s.repository user).task signal
        (answer 201 fun u => CreateUserResponse.json ⟨u.id⟩)
  | .add id =>
    proceed (deposit minted id request) fun t =>
      (Manager.addTransaction s.repository t).task signal
        (answer 201 fun t => AddTransactionResponse.json ⟨addedMessage, t⟩)
  | .balance id =>
    proceed (Input.userId id) fun user =>
      (Manager.balance s.repository user).task signal (answer 200 fun b => BalanceResponse.json ⟨b⟩)
  | .history id =>
    proceed (historyPage id request.target.query) fun (user, page, size) =>
      (Manager.history s.repository user page size).task signal (answer 200 historyJson)

def respond (s : Service σ) (minted : Minted) (signal : Signal) (request : Http.Request) :
    Task σ Http.Response :=
  match Route.of? request.target.path with
  | none => .settled ⟨[], ⟨404, none, none, ""⟩⟩
  | some route =>
    if route.allows request.method then
      let task := s.perform minted signal request route
      if request.method = .head then task.map Http.Response.withoutBody else task
    else .settled ⟨[], ⟨405, none, some route.allowed, ""⟩⟩

end Service

end Passbook
