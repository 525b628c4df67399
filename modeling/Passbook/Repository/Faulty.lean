import Passbook.Repository.Basic
/-!
A repository that is slow, stuck or broken by plan, and counts its calls.
-/
namespace Passbook

inductive Method where
  | addUser
  | findUser
  | addTransaction
  | history
  deriving DecidableEq, Repr

/-- What happens to a call: a wait, then nothing more, an error or the call itself, then another wait. -/
structure Fault where
  before : Nat := 0
  hang : Bool := false
  error : Option StoreError := none
  after : Nat := 0
  deriving DecidableEq, Repr

structure Counted (σ : Type) where
  state : σ
  calls : List Method := []
  deriving Repr

namespace Counted

variable {σ : Type}

def count (c : Counted σ) (m : Method) : Nat := c.calls.count m

def note (m : Method) (c : Counted σ) : Counted σ := { c with calls := m :: c.calls }

end Counted

abbrev FaultPlan := Method → Option Fault

namespace Fault

variable {σ α : Type}

def apply (f : Fault) (call : Work σ (Except StoreError α)) : Work σ (Except StoreError α) :=
  .sleep f.before <|
    if f.hang then .hang
    else match f.error with
      | some e => .done (.error e)
      | none => call.bind fun r => .sleep f.after (.done r)

end Fault

namespace FaultPlan

variable {σ α : Type}

def call (plan : FaultPlan) (m : Method) (work : Work σ (Except StoreError α)) :
    Work (Counted σ) (Except StoreError α) :=
  .act (Counted.note m) fun _ =>
    let work := work.onPart Counted.state fun s c => { c with state := s }
    (plan m).elim work fun f => f.apply work

end FaultPlan

def Repository.faulty {σ : Type} (r : Repository σ) (plan : FaultPlan) : Repository (Counted σ) where
  addUser user := plan.call .addUser (r.addUser user)
  findUser user := plan.call .findUser (r.findUser user)
  addTransaction t := plan.call .addTransaction (r.addTransaction t)
  history user page := plan.call .history (r.history user page)

end Passbook
