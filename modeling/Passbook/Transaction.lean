import Passbook.Error
import Passbook.Instant.Basic
/-!
The records of the ledger, and the pages of a history. A balance is never stored: it is the sum of a user's amounts.
-/
namespace Passbook

structure Transaction where
  id : TransactionId
  userId : UserId
  amount : Amount
  createdAt : Instant
  idempotencyKey : IdempotencyKey
  deriving DecidableEq, Repr, Inhabited

namespace Transaction

def ofRequest (key : IdempotencyKey) (user : UserId) (amount : Amount) (createdAt : Instant) : Transaction :=
  ⟨.derive key user amount, user, amount, createdAt, key⟩

def historyOrder (s t : Transaction) : Ordering :=
  (s.createdAt.compare t.createdAt).then (s.id.uuid.compare t.id.uuid)

def isBefore (s t : Transaction) : Bool := s.historyOrder t == .lt

/-- Equality of records: amounts count by their value. -/
def same (s t : Transaction) : Bool :=
  s.id == t.id && s.userId == t.userId && s.amount.sameValue t.amount && s.createdAt == t.createdAt &&
    s.idempotencyKey == t.idempotencyKey

def isValid (t : Transaction) : Bool := t.amount.isPositive

def sortedPlaces (ts : List Transaction) : List Nat :=
  (ts.zipIdx.mergeSort fun s t => s.1.historyOrder t.1 != .gt).map Prod.snd

end Transaction

structure User where
  id : UserId
  balance : Amount
  deriving DecidableEq, Repr, Inhabited

def wordLimit : Nat := Nat.pow 2 64

structure Page where
  number : Nat
  size : Nat
  number_pos : 0 < number
  size_pos : 0 < size
  deriving DecidableEq, Repr

namespace Page

def of? (number size : Nat) : Option Page :=
  if h : 0 < number ∧ 0 < size then some ⟨number, size, h.1, h.2⟩ else none

def defaultSize : Nat := 10

def first : Page := ⟨1, defaultSize, by decide, by decide⟩

instance : Inhabited Page := ⟨first⟩

/-- How many records come before the page; the count stops at the largest word. -/
def offset (p : Page) : Nat := min ((p.number - 1) * p.size) (wordLimit - 1)

def select {α : Type} (p : Page) (records : List α) : List α := (records.drop p.offset).take p.size

end Page

end Passbook
