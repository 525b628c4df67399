import Passbook.Event
import Passbook.Signal
import Passbook.Work.Basic
/-!
A task is work under a signal. The signal is looked at before the work starts, and again before each time the work
goes on. Interrupted work is dropped: what it did stays, and nothing more is done.
-/
namespace Passbook

structure Outcome (β : Type) where
  events : List Event
  answer : β

/-- A signal, and the outcome of work that it interrupts, which may have started or not. -/
structure Guard (β : Type) where
  signal : Signal
  interrupted : (started : Bool) → Interruption → Outcome β

namespace Outcome

def map {β γ : Type} (f : β → γ) (o : Outcome β) : Outcome γ := ⟨o.events, f o.answer⟩

end Outcome

structure Task (σ β : Type) where
  guard : Option (Guard β) := none
  work : Work σ (Outcome β)

namespace Guard

variable {β : Type}

def map {γ : Type} (f : β → γ) (g : Guard β) : Guard γ :=
  ⟨g.signal, fun started i => (g.interrupted started i).map f⟩

def refusal? (g : Guard β) (m : Moment) : Option (Outcome β) := (g.signal.check m).map (g.interrupted false)

def interruption? (g : Guard β) (preferred : Interruption) (m : Moment) : Option (Outcome β) :=
  (g.signal.fired preferred m).map (g.interrupted true)

end Guard

namespace Task

variable {σ β : Type}

def free (work : Work σ β) : Task σ β where
  work := work.map (⟨[], ·⟩)

def under {α : Type} (signal : Signal) (work : Work σ (Except LedgerError α))
    (answer : (started : Bool) → Except LedgerError α → Outcome β) : Task σ β where
  guard := some ⟨signal, fun started i => answer started (.error i.error)⟩
  work := work.map (answer true)

def settled (o : Outcome β) : Task σ β := { work := .done o }

def map {γ : Type} (f : β → γ) (t : Task σ β) : Task σ γ := ⟨t.guard.map (·.map f), t.work.map (·.map f)⟩

def refusal? (t : Task σ β) (m : Moment) : Option (Outcome β) := t.guard.bind (·.refusal? m)

def start (t : Task σ β) (m : Moment) (s : σ) : Work.Stop σ (Outcome β) × σ :=
  match t.refusal? m with
  | some o => (.finished o, s)
  | none => t.work.run m.now s

end Task

namespace Guard

variable {σ β : Type}

/-- A look at waiting work: it is interrupted, it goes on if its time has come, or it waits. -/
def poll (guard : Option (Guard β)) (preferred : Interruption) (m : Moment) (wake : Option Nat)
    (rest : Work σ (Outcome β)) (s : σ) : Work.Stop σ (Outcome β) × σ :=
  match guard.bind (·.interruption? preferred m) with
  | some o => (.finished o, s)
  | none => if wake.any (· ≤ m.now) then rest.run m.now s else (.waiting wake rest, s)

section Poll

variable {guard : Option (Guard β)} {preferred : Interruption} {m : Moment} {wake : Option Nat}

theorem interruption?_eq_none (h : ∀ g ∈ guard, g.signal.check m = none) (preferred : Interruption) :
    guard.bind (·.interruption? preferred m) = none := by
  cases guard with
  | none => rfl
  | some g => simp [interruption?, Signal.fired_eq_none (h g rfl) preferred]

theorem poll_interrupted {o : Outcome β} (h : guard.bind (·.interruption? preferred m) = some o) (wake : Option Nat)
    (rest : Work σ (Outcome β)) (s : σ) : poll guard preferred m wake rest s = (.finished o, s) := by
  rw [poll, h]

/-- Waiting work that is not interrupted goes on as soon as its time has come. -/
theorem poll_due (h : guard.bind (·.interruption? preferred m) = none) (hwake : wake.any (· ≤ m.now))
    (rest : Work σ (Outcome β)) (s : σ) : poll guard preferred m wake rest s = rest.run m.now s := by
  rw [poll, h]
  exact if_pos hwake

theorem poll_early (h : guard.bind (·.interruption? preferred m) = none) (hwake : ¬ wake.any (· ≤ m.now))
    (rest : Work σ (Outcome β)) (s : σ) : poll guard preferred m wake rest s = (.waiting wake rest, s) := by
  rw [poll, h]
  exact if_neg hwake

end Poll

end Guard

end Passbook
