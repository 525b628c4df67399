import Passbook.Work.Task
/-!
Tasks on one state and one clock. A task in the foreground moves the clock while it waits, and jobs in the background
go on when their times come: at one instant the foreground first, then the jobs in the order in which their waits
began. A deadline that ends with a wait wins over it.
-/
namespace Passbook

inductive Job.Status (σ β : Type) where
  | finished (answer : β)
  | waiting (ticket : Nat) (guard : Option (Guard β)) (wake : Option Nat) (rest : Work σ (Outcome β))

structure Job (σ β : Type) where
  name : Option String
  status : Job.Status σ β

namespace Job

variable {σ β : Type}

def answer? (j : Job σ β) : Option β :=
  match j.status with
  | .finished answer => some answer
  | .waiting .. => none

def ticket? (j : Job σ β) : Option Nat :=
  match j.status with
  | .finished _ => none
  | .waiting ticket .. => some ticket

def wake? (j : Job σ β) : Option Nat :=
  match j.status with
  | .finished _ => none
  | .waiting _ guard wake _ => [wake, guard.bind (·.signal.deadline)].reduceOption.min?

end Job

structure Timeline (σ β : Type) where
  moment : Moment := {}
  state : σ
  events : List Event := []
  jobs : List (Job σ β) := []
  /-- Tickets number the waits of jobs in the order in which they begin. -/
  nextTicket : Nat := 0
  nextFamily : Nat := 0

namespace Timeline

variable {σ β : Type}

def now (w : Timeline σ β) : Nat := w.moment.now

def log (w : Timeline σ β) (events : List Event) : Timeline σ β := { w with events := w.events ++ events }

def takeEvents (w : Timeline σ β) : List Event × Timeline σ β := (w.events, { w with events := [] })

def newSignal (w : Timeline σ β) : Signal × Timeline σ β :=
  (⟨w.nextFamily, none⟩, { w with nextFamily := w.nextFamily + 1 })

def settle (name : Option String) (guard : Option (Guard β)) (stop : Work.Stop σ (Outcome β) × σ)
    (w : Timeline σ β) : Job σ β × Timeline σ β :=
  match stop with
  | (.finished o, s) => (⟨name, .finished o.answer⟩, { w.log o.events with state := s })
  | (.waiting wake rest, s) =>
    (⟨name, .waiting w.nextTicket guard wake rest⟩, { w with state := s, nextTicket := w.nextTicket + 1 })

def isDue (w : Timeline σ β) (guard : Option (Guard β)) (wake : Option Nat) : Bool :=
  wake.any (· ≤ w.now) || (guard.bind fun g => g.signal.check w.moment).isSome

def pollJob (w : Timeline σ β) (ticket : Nat) : Timeline σ β :=
  match w.jobs.find? (·.ticket? == some ticket) with
  | some ⟨name, .waiting _ guard wake rest⟩ =>
    if w.isDue guard wake then
      let (job, w) := w.settle name guard (Guard.poll guard .cancelled w.moment wake rest w.state)
      { w with jobs := w.jobs.filter (·.ticket? != some ticket) ++ [job] }
    else w
  | _ => w

def pollBefore (w : Timeline σ β) (ticket : Nat) : Timeline σ β :=
  ((w.jobs.filterMap Job.ticket?).filter (· < ticket)).foldl pollJob w

def pollAll (w : Timeline σ β) : Timeline σ β := w.pollBefore w.nextTicket

def setNow (w : Timeline σ β) (now : Nat) : Timeline σ β := { w with moment := { w.moment with now } }

def nextWake? (w : Timeline σ β) (t : Nat) : Option Nat := ((w.jobs.filterMap Job.wake?).filter (t < ·)).min?

def runBetween (t target : Nat) (w : Timeline σ β) : Timeline σ β :=
  match w.nextWake? t with
  | none => w
  | some next =>
    if t < next ∧ next < target then runBetween next target ((w.setNow next).pollAll) else w
termination_by target - t

/-- Moves the clock, with all that happens before `target`, and there the jobs whose waits began before the ticket. -/
def reach (target ticket : Nat) (w : Timeline σ β) : Timeline σ β :=
  if w.now < target then
    (((w.pollAll).runBetween w.now target).setNow target).pollBefore ticket
  else w

inductive Wait (β : Type) where
  | over
  | interrupted (outcome : Outcome β)
  | endless

def await (guard : Option (Guard β)) (wake : Option Nat) (ticket : Nat) (w : Timeline σ β) :
    Wait β × Timeline σ β :=
  match guard.bind fun g => g.signal.deadline.map (g, ·), wake with
  | some (g, deadline), some t =>
    if deadline ≤ t then (.interrupted (g.interrupted true .deadlineExceeded), w.reach deadline ticket)
    else (.over, w.reach t ticket)
  | some (g, deadline), none => (.interrupted (g.interrupted true .deadlineExceeded), w.reach deadline ticket)
  | none, some t => (.over, w.reach t ticket)
  | none, none => (.endless, w)

def rank (w : Timeline σ β) (foreground : Bool) : Nat := if foreground then 0 else w.nextTicket

def drive (guard : Option (Guard β)) (foreground : Bool) :
    Work σ (Outcome β) → Timeline σ β → Option (Outcome β) × Timeline σ β
  | .done o, w => (some o, w)
  | .act f next, w => drive guard foreground (next w.state) { w with state := f w.state }
  | .sleep 0 next, w => drive guard foreground next w
  | .sleep (ms + 1) next, w =>
    match w.await guard (some (w.now + ms + 1)) (w.rank foreground) with
    | (.over, w) => drive guard foreground next w
    | (.interrupted o, w) => (some o, w)
    | (.endless, w) => (none, w)
  | .hang, w =>
    match w.await guard none (w.rank foreground) with
    | (.interrupted o, w) => (some o, w)
    | (_, w) => (none, w)

def conclude : Option (Outcome β) × Timeline σ β → Option β × Timeline σ β
  | (some o, w) => (some o.answer, (w.log o.events).pollAll)
  | (none, w) => (none, w.pollAll)

def perform (task : Task σ β) (w : Timeline σ β) : Option β × Timeline σ β :=
  match task.refusal? w.moment with
  | some o => conclude (some o, w)
  | none => conclude (drive task.guard true task.work w)

def advance (ms : Nat) (w : Timeline σ β) : Timeline σ β := (w.reach (w.now + ms) 0).pollAll

def cancel (s : Signal) (w : Timeline σ β) : Timeline σ β := { w with moment := w.moment.cancel s.family }.pollAll

def spawn (name : String) (task : Task σ β) (w : Timeline σ β) : Timeline σ β :=
  let (job, w) := w.settle (some name) task.guard (task.start w.moment w.state)
  let others := w.jobs.map fun j => if j.name == some name then { j with name := none } else j
  { w with jobs := others ++ [job] }.pollAll

def job? (w : Timeline σ β) (name : String) : Option (Job σ β) := w.jobs.find? (·.name == some name)

def join (name : String) (w : Timeline σ β) : Option (Option β × Timeline σ β) := do
  let job ← w.job? name
  let w := { w with jobs := w.jobs.filter (·.name != some name) }
  match job.status with
  | .finished answer => some (some answer, w)
  | .waiting ticket guard wake rest =>
    match w.await guard wake ticket with
    | (.over, w) => conclude (drive guard false rest w)
    | (.interrupted o, w) => conclude (some o, w)
    | (.endless, w) => conclude (none, w)

end Timeline

end Passbook
