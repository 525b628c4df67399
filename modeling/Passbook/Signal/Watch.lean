import Passbook.Signal
/-!
How tasks that wait for one family learn that it is cancelled. A watcher asks to be told before it reads the flag, and a
cancellation sets the flag before it tells. A look at a waiting task polls its watcher: the watcher goes on to where it
waits to be told, or returns.
-/
namespace Passbook

/-- Where a watcher stands in its loop. One that has asked keeps the number of tellings until then. -/
inductive Watcher where
  | asking
  | reading (asked : Nat)
  | parking (asked : Nat)
  | parked (asked : Nat)
  | returned
  deriving DecidableEq, Repr

inductive Cancelling where
  | setting
  | telling
  | complete
  deriving DecidableEq, Repr

/-- The flag of one family and the number of tellings, with all who watch the family or cancel it. -/
structure Watch (ι κ : Type) where
  flag : Bool := false
  tellings : Nat := 0
  watchers : ι → Watcher := fun _ => .asking
  cancellings : κ → Cancelling := fun _ => .setting

inductive Watch.Step (ι κ : Type) where
  | watch (watcher : ι)
  | cancel (cancelling : κ)
  deriving DecidableEq, Repr

namespace Watch

variable {ι κ : Type}

/-- A telling reaches all who asked before it, and nobody else. -/
def isTold (w : Watch ι κ) (asked : Nat) : Bool := asked < w.tellings

def next (w : Watch ι κ) : Watcher → Watcher
  | .asking => .reading w.tellings
  | .reading asked => if w.flag then .returned else .parking asked
  | .parking asked => .parked asked
  | .parked asked => if w.isTold asked then .asking else .parked asked
  | .returned => .returned

def rests (w : Watch ι κ) : Watcher → Bool
  | .parked asked => !w.isTold asked
  | .returned => true
  | .asking | .reading _ | .parking _ => false

def toRest (w : Watch ι κ) : Watcher → Nat
  | .asking => 3
  | .reading asked => if w.flag then 1 else if w.isTold asked then 6 else 2
  | .parking asked => if w.isTold asked then 5 else 1
  | .parked asked => if w.isTold asked then 4 else 0
  | .returned => 0

theorem toRest_next (w : Watch ι κ) {x : Watcher} (h : ¬ w.rests x) : w.toRest (w.next x) < w.toRest x := by
  cases x with
  | asking =>
    simp only [next, toRest, isTold, Nat.lt_irrefl, decide_false]
    split <;> decide
  | reading asked => by_cases hflag : w.flag <;> by_cases htold : w.isTold asked <;> simp [next, toRest, hflag, htold]
  | parking asked => by_cases htold : w.isTold asked <;> simp [next, toRest, htold]
  | parked asked =>
    have htold : w.isTold asked := by simpa [rests] using h
    simp [next, toRest, htold]
  | returned => exact absurd rfl h

variable [DecidableEq ι] [DecidableEq κ]

def setWatcher (w : Watch ι κ) (i : ι) (x : Watcher) : Watch ι κ :=
  { w with watchers := fun j => if j = i then x else w.watchers j }

def setCancelling (w : Watch ι κ) (c : κ) (x : Cancelling) : Watch ι κ :=
  { w with cancellings := fun d => if d = c then x else w.cancellings d }

def step (w : Watch ι κ) : Step ι κ → Watch ι κ
  | .watch i => w.setWatcher i (w.next (w.watchers i))
  | .cancel c =>
    match w.cancellings c with
    | .setting => { w with flag := true }.setCancelling c .telling
    | .telling => { w with tellings := w.tellings + 1 }.setCancelling c .complete
    | .complete => w

def play (w : Watch ι κ) (steps : List (Step ι κ)) : Watch ι κ := steps.foldl step w

theorem watchers_watch_self (w : Watch ι κ) (i : ι) : (w.step (.watch i)).watchers i = w.next (w.watchers i) := if_pos rfl

def poll (w : Watch ι κ) (i : ι) : Watch ι κ :=
  if w.rests (w.watchers i) then w else (w.step (.watch i)).poll i
termination_by w.toRest (w.watchers i)
decreasing_by
  rw [watchers_watch_self]
  exact w.toRest_next ‹_›

/-- What task `i` finds when its watcher and its deadline are polled. When both are ready, it may find `preferred`. -/
def look (w : Watch ι κ) (i : ι) (preferred : Interruption) (s : Signal) (m : Moment) : Option Interruption :=
  match decide ((w.poll i).watchers i = .returned), s.isExpired m with
  | true, true => some preferred
  | true, false => some .cancelled
  | false, true => some .deadlineExceeded
  | false, false => none

end Watch

end Passbook
