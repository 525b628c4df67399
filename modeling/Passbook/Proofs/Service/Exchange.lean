import Passbook.Proofs.Manager.Direct
import Passbook.Service.Basic
import Passbook.Work.Timeline

/-! Requests to the service on a store of its own, one after the other. Each of them is answered at once, and registers
a user, puts one record or leaves the store as it was. -/

namespace Passbook

section Answers

variable {β : Type} {task : Task Store β} {m : Moment} {s : Store}

def Task.Answers (task : Task Store β) (m : Moment) (s : Store) : Prop := ∃ b s', task.Ends m s b s' ∧ s.Grows s'

lemma Task.answers_settled (o : Outcome β) : (Task.settled (σ := Store) o).Answers m s :=
  ⟨_, _, Task.ends_settled o, .same⟩

lemma Task.Answers.map {γ : Type} (h : task.Answers m s) (f : β → γ) : (task.map f).Answers m s := by
  obtain ⟨b, s', hends, hgrows⟩ := h
  exact ⟨_, _, hends.map f, hgrows⟩

lemma Timeline.drive_of_run {w : Timeline Store β} {work : Work Store (Outcome β)} {o : Outcome β} {s' : Store}
    (guard : Option (Guard β)) (foreground : Bool) (h : work.run w.now w.state = (.finished o, s')) :
    drive guard foreground work w = (some o, { w with state := s' }) := by
  induction work generalizing w with
  | done o' =>
    obtain ⟨ho, rfl⟩ := Prod.mk.inj h
    injection ho with ho
    subst ho
    rfl
  | act effect next ih => exact ih _ h
  | sleep ms next ih =>
    cases ms with
    | zero => exact ih h
    | succ ms => cases h
  | hang => cases h

lemma Timeline.perform_of_ends {w : Timeline Store β} {b : β} {s' : Store} (h : task.Ends w.moment w.state b s')
    (hjobs : w.jobs = []) : (w.perform task).1 = some b ∧ (w.perform task).2.state = s' := by
  obtain ⟨events, h⟩ := h
  unfold Task.start at h
  unfold perform
  cases hr : task.refusal? w.moment with
  | some o =>
    simp only [hr, Prod.mk.injEq, Work.Stop.finished.injEq] at h
    obtain ⟨rfl, rfl⟩ := h
    simp [conclude, pollAll, pollBefore, log, hjobs]
  | none =>
    simp only [hr] at h
    simp [drive_of_run task.guard true h, conclude, pollAll, pollBefore, log, hjobs]

end Answers

namespace Service

variable (timeout : Option Nat)

def onStore : Service Store where
  repository := Store.repository
  timeout := timeout

section Tasks

variable (minted : Minted) (signal : Signal) (request : Http.Request) (m : Moment) (s : Store)

lemma answers_proceed {α : Type} {stages : Except Refusal α} {next : α → Task Store Http.Response}
    (h : ∀ a, stages = .ok a → (next a).Answers m s) : (proceed stages next).Answers m s := by
  cases hs : stages with
  | ok a => exact h a hs
  | error r => exact Task.answers_settled _

lemma answers_createUser (user : UserId) (answer : Except LedgerError User → Http.Response) :
    ((Manager.createUser Store.repository user).task signal answer).Answers m s := by
  refine ⟨_, _, Ledger.ends_createUser signal m s answer user, ?_⟩
  rcases Ledger.createUser_cases (signal.check m) user s with ⟨e, h⟩ | ⟨hnew, h⟩ <;> rw [h]
  · exact .same
  · exact .register hnew

lemma answers_addTransaction (t : Transaction) (answer : Except LedgerError Transaction → Http.Response) :
    ((Manager.addTransaction Store.repository t).task signal answer).Answers m s := by
  refine ⟨_, _, Ledger.ends_addTransaction signal m s answer t, ?_⟩
  rcases Ledger.addTransaction_cases (signal.check m) t s with ⟨e, h⟩ | ⟨-, hr, h⟩ <;> rw [h]
  · exact .same
  · exact .put hr

lemma answers_perform (route : Route) : ((onStore timeout).perform minted signal request route).Answers m s := by
  cases route with
  | users => exact answers_proceed m s fun user _ => answers_createUser signal m s user _
  | add id => exact answers_proceed m s fun t _ => answers_addTransaction signal m s t _
  | balance id =>
    refine answers_proceed m s fun user _ => ⟨_, _, Ledger.ends_balance signal m s _ user, ?_⟩
    rw [Ledger.balance_snd]
    exact .same
  | history id =>
    refine answers_proceed m s fun q _ => ⟨_, _, Ledger.ends_history signal m s _ q.1 q.2.1 q.2.2, ?_⟩
    rw [Ledger.history_snd]
    exact .same

lemma answers_respond : ((onStore timeout).respond minted signal request).Answers m s := by
  unfold respond
  split
  · exact Task.answers_settled _
  · split
    · simp only
      split
      · exact (answers_perform timeout minted signal request m s _).map _
      · exact answers_perform timeout minted signal request m s _
    · exact Task.answers_settled _

end Tasks

end Service

/-- A request with what the service makes up for it. Its deadline is counted from its arrival and first looked at
later. -/
structure Exchange where
  request : Http.Request
  minted : Minted
  arrival : Nat := 0
  look : Nat := 0
  deriving DecidableEq, Repr

namespace Exchange

variable (timeout : Option Nat) (x : Exchange) (s : Store)

def signal : Signal := (Service.onStore timeout).signal ⟨0, none⟩ { now := x.arrival }

def isLate : Bool := timeout.any fun t => x.arrival + t ≤ x.look

def task : Task Store Http.Response := (Service.onStore timeout).respond x.minted (x.signal timeout) x.request

def start : Work.Stop Store (Outcome Http.Response) × Store := (x.task timeout).start { now := x.look } s

def response? : Option Http.Response :=
  match (x.start timeout s).1 with
  | .finished o => some o.answer
  | .waiting _ _ => none

def after : Store := (x.start timeout s).2

lemma check_signal : (x.signal timeout).check { now := x.look } =
    if x.isLate timeout then some .deadlineExceeded else none := by
  cases timeout with
  | none => rfl
  | some t =>
    simp [signal, isLate, Service.signal, Service.onStore, Signal.withTimeout, Signal.withDeadline, Signal.check,
      Signal.isCancelled, Signal.isExpired]

variable {timeout x s}

lemma of_ends {r : Http.Response} {s' : Store} (h : (x.task timeout).Ends { now := x.look } s r s') :
    x.response? timeout s = some r ∧ x.after timeout s = s' := by
  obtain ⟨events, h⟩ := h
  simp [response?, after, start, h]

lemma response_of_deposit {id : List UInt8} {t : Transaction} (hmethod : x.request.method = .post)
    (hroute : Route.of? x.request.target.path = some (.add id))
    (hdeposit : Service.deposit x.minted id x.request = .ok t) (timeout : Option Nat) (s : Store) :
    let added := Ledger.addTransaction (if x.isLate timeout then some .deadlineExceeded else none) t s
    x.response? timeout s =
        some (Service.answer 201 (fun t => AddTransactionResponse.json ⟨Service.addedMessage, t⟩) added.1) ∧
      x.after timeout s = added.2 := by
  intro added
  have htask : x.task timeout = (Manager.addTransaction Store.repository t).task (x.signal timeout)
      (Service.answer 201 fun t => AddTransactionResponse.json ⟨Service.addedMessage, t⟩) := by
    simp [task, Service.respond, hroute, hmethod, Route.allows, Service.perform, hdeposit, Service.proceed,
      Service.onStore]
  apply of_ends
  rw [htask]
  have hends := Ledger.ends_addTransaction (x.signal timeout) { now := x.look } s
    (Service.answer 201 fun t => AddTransactionResponse.json ⟨Service.addedMessage, t⟩) t
  rwa [check_signal] at hends

lemma answers_task (timeout : Option Nat) (x : Exchange) (s : Store) :
    (x.task timeout).Answers { now := x.look } s :=
  Service.answers_respond timeout x.minted (x.signal timeout) x.request { now := x.look } s

lemma grows_after (timeout : Option Nat) (x : Exchange) (s : Store) : s.Grows (x.after timeout s) := by
  obtain ⟨r, s', hends, hgrows⟩ := x.answers_task timeout s
  rw [(of_ends hends).2]
  exact hgrows

/-- On a timeline with no jobs, the service gives the same response and leaves the same store. -/
theorem perform_eq {w : Timeline Store Http.Response} (hjobs : w.jobs = []) (hmoment : w.moment = { now := x.look }) :
    (w.perform (x.task timeout)).1 = x.response? timeout w.state ∧
      (w.perform (x.task timeout)).2.state = x.after timeout w.state := by
  obtain ⟨r, s', hends, -⟩ := x.answers_task timeout w.state
  obtain ⟨hr, hs⟩ := of_ends hends
  rw [hr, hs]
  exact Timeline.perform_of_ends (hmoment ▸ hends) hjobs

end Exchange

namespace Store

def exchange (timeout : Option Nat) (s : Store) (xs : List Exchange) : Store :=
  xs.foldl (fun s x => x.after timeout s) s

variable {timeout : Option Nat} {s : Store}

lemma isRegistered_exchange {user : UserId} (h : s.isRegistered user) (xs : List Exchange) :
    (s.exchange timeout xs).isRegistered user := by
  induction xs generalizing s with
  | nil => exact h
  | cons x xs ih => exact ih ((x.grows_after timeout s).isRegistered h)

lemma isRecorded_exchange {id : TransactionId} (h : s.isRecorded id) (xs : List Exchange) :
    (s.exchange timeout xs).isRecorded id := by
  induction xs generalizing s with
  | nil => exact h
  | cons x xs ih => exact ih ((x.grows_after timeout s).isRecorded h)

end Store

end Passbook
