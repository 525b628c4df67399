import Passbook.Error
/-!
Signals that interrupt work. Copies of a signal are a family that is cancelled as one; each has a deadline of its own.
-/
namespace Passbook

inductive Interruption where
  | cancelled
  | deadlineExceeded
  deriving DecidableEq, Repr

def Interruption.error : Interruption → LedgerError
  | .cancelled => .cancelled
  | .deadlineExceeded => .deadlineExceeded

/-- What there is to see at one look: the time, in milliseconds, and the families cancelled so far. -/
structure Moment where
  now : Nat := 0
  cancelled : List Nat := []
  deriving DecidableEq, Repr

def Moment.cancel (m : Moment) (family : Nat) : Moment := { m with cancelled := family :: m.cancelled }

structure Signal where
  family : Nat
  deadline : Option Nat := none
  deriving DecidableEq, Repr

namespace Signal

def withDeadline (s : Signal) (deadline : Nat) : Signal := { s with deadline := some deadline }

def withTimeout (s : Signal) (m : Moment) (timeout : Nat) : Signal := s.withDeadline (m.now + timeout)

def isCancelled (s : Signal) (m : Moment) : Bool := m.cancelled.contains s.family

def isExpired (s : Signal) (m : Moment) : Bool := s.deadline.any (· ≤ m.now)

def check (s : Signal) (m : Moment) : Option Interruption :=
  if s.isCancelled m then some .cancelled
  else if s.isExpired m then some .deadlineExceeded
  else none

/-- What a waiting task sees of its signal. When both reasons hold at one look, the task may see `preferred`. -/
def fired (preferred : Interruption) (s : Signal) (m : Moment) : Option Interruption :=
  if s.isCancelled m && s.isExpired m then some preferred else s.check m

theorem fired_cancelled (s : Signal) (m : Moment) : s.fired .cancelled m = s.check m := by
  unfold fired check
  split <;> simp_all

theorem check_eq_none_iff {s : Signal} {m : Moment} :
    s.check m = none ↔ s.isCancelled m = false ∧ ∀ deadline ∈ s.deadline, m.now < deadline := by
  have hexpired : s.isExpired m = false ↔ ∀ deadline ∈ s.deadline, m.now < deadline := by
    cases hd : s.deadline <;> simp [isExpired, hd]
  rw [← hexpired]
  cases hc : s.isCancelled m <;> cases he : s.isExpired m <;> simp [check, hc, he]

theorem fired_eq_none {s : Signal} {m : Moment} (h : s.check m = none) (preferred : Interruption) :
    s.fired preferred m = none := by
  obtain ⟨hc, -⟩ := check_eq_none_iff.mp h
  simp [fired, hc, h]

end Signal

end Passbook
