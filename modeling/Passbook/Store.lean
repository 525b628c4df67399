import Passbook.Amount.Sum
import Passbook.Transaction
/-!
The store: an account for each user, with its history in order, and an index of every transaction by identity.
Users and records only ever come in.
-/
namespace Passbook

structure Account where
  owner : UserId
  history : List Transaction
  deriving DecidableEq, Repr, Inhabited

namespace Account

def amounts (a : Account) : List Amount := a.history.map Transaction.amount

def total? (a : Account) : Option Amount := Amount.sum? a.amounts

def insert (a : Account) (t : Transaction) : Account :=
  { a with history := a.history.takeWhile (·.isBefore t) ++ t :: a.history.dropWhile (·.isBefore t) }

theorem mem_insert {a : Account} {s t : Transaction} : s ∈ (a.insert t).history ↔ s = t ∨ s ∈ a.history := by
  have h : s ∈ a.history ↔ s ∈ a.history.takeWhile (·.isBefore t) ∨ s ∈ a.history.dropWhile (·.isBefore t) := by
    rw [← List.mem_append, List.takeWhile_append_dropWhile]
  simp only [insert, List.mem_append, List.mem_cons, h]
  exact or_left_comm

end Account

structure Store where
  accounts : List Account := []
  index : List Transaction := []
  deriving DecidableEq, Repr, Inhabited

namespace Store

def account? (s : Store) (user : UserId) : Option Account := s.accounts.find? (·.owner == user)

def isRegistered (s : Store) (user : UserId) : Bool := (s.account? user).isSome

def recorded? (s : Store) (id : TransactionId) : Option Transaction := s.index.find? (·.id == id)

def isRecorded (s : Store) (id : TransactionId) : Bool := (s.recorded? id).isSome

def transactionCount (s : Store) : Nat := s.index.length

def history (s : Store) (user : UserId) : List Transaction := ((s.account? user).map Account.history).getD []

def register (s : Store) (user : UserId) : Store := { s with accounts := s.accounts ++ [⟨user, []⟩] }

def put (s : Store) (t : Transaction) : Store where
  accounts := s.accounts.map fun a => if a.owner == t.userId then a.insert t else a
  index := s.index ++ [t]

def addUser (user : UserId) (s : Store) : Except StoreError User × Store :=
  if s.isRegistered user then (.error (.userExists user), s)
  else (.ok ⟨user, Amount.zero⟩, s.register user)

def find (user : UserId) (s : Store) : Except StoreError User :=
  match s.account? user with
  | none => .error .notFound
  | some a =>
    match a.total? with
    | some balance => .ok ⟨user, balance⟩
    | none => .error (.balanceOverflow user)

def refusal? (t : Transaction) (s : Store) : Option StoreError :=
  match s.account? t.userId with
  | none => some .notFound
  | some a =>
    if s.isRecorded t.id then some (.conflict t.id)
    else if (a.total?.bind (Amount.add? · t.amount)).isNone then some (.balanceOverflow t.userId)
    else none

def record (t : Transaction) (s : Store) : Except StoreError Unit × Store :=
  match s.refusal? t with
  | some e => (.error e, s)
  | none => (.ok (), s.put t)

def page (user : UserId) (p : Page) (s : Store) : Except StoreError (List Transaction) :=
  match s.account? user with
  | none => .error .notFound
  | some a => .ok (p.select a.history)

end Store

end Passbook
