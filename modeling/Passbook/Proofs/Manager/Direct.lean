import Passbook.Proofs.Manager.Request
import Passbook.Proofs.Store.Writes

/-! Calls of the ledger on the store itself, as functions of the store. The store answers at once, so a signal can
only end a call before it starts, and a call that ends in an error has left the store as it was. -/

namespace Passbook

section Ends

variable {β γ : Type} {task : Task Store β} {m : Moment} {s s' : Store} {b : β}

def Task.Ends (task : Task Store β) (m : Moment) (s : Store) (b : β) (s' : Store) : Prop :=
  ∃ events, task.start m s = (.finished ⟨events, b⟩, s')

lemma Work.run_map {α : Type} {work : Work Store α} {now : Nat} {a : α} (f : α → β)
    (h : work.run now s = (.finished a, s')) : (work.map f).run now s = (.finished (f a), s') := by
  induction work generalizing s with
  | done x =>
    obtain ⟨hx, rfl⟩ := Prod.mk.inj h
    injection hx with hx
    subst hx
    rfl
  | act effect next ih => exact ih _ h
  | sleep ms next ih =>
    cases ms with
    | zero => exact ih h
    | succ ms => cases h
  | hang => cases h

lemma Task.ends_settled (o : Outcome β) : (Task.settled (σ := Store) o).Ends m s o.answer s := ⟨o.events, rfl⟩

lemma Task.Ends.map (h : task.Ends m s b s') (f : β → γ) : (task.map f).Ends m s (f b) s' := by
  obtain ⟨events, h⟩ := h
  have hrefusal : (task.map f).refusal? m = (task.refusal? m).map (Outcome.map f) := by
    cases hg : task.guard with
    | none => simp [Task.refusal?, Task.map, hg]
    | some g => cases hc : g.signal.check m <;> simp [Task.refusal?, Task.map, Guard.map, Guard.refusal?, hg, hc]
  unfold Task.start at h
  cases hr : task.refusal? m with
  | some o =>
    simp only [hr, Prod.mk.injEq, Work.Stop.finished.injEq] at h
    obtain ⟨rfl, rfl⟩ := h
    exact ⟨events, by simp [Task.start, hrefusal, hr, Outcome.map]⟩
  | none =>
    simp only [hr] at h
    have hrun : (task.map f).work.run m.now s = (.finished ⟨events, f b⟩, s') := Work.run_map (Outcome.map f) h
    exact ⟨events, by simpa [Task.start, hrefusal, hr] using hrun⟩

end Ends

namespace Ledger

variable {α β : Type}

def interruptible (fired : Option Interruption) (f : Store → Except LedgerError α × Store) (s : Store) :
    Except LedgerError α × Store :=
  match fired with
  | some i => (.error i.error, s)
  | none => f s

def createUser (fired : Option Interruption) (user : UserId) : Store → Except LedgerError User × Store :=
  interruptible fired fun s => ((s.addUser user).1.mapError LedgerError.ofStore, (s.addUser user).2)

def addTransaction (fired : Option Interruption) (t : Transaction) (s : Store) :
    Except LedgerError Transaction × Store :=
  if t.isValid then
    interruptible fired (fun s => (((s.record t).1.mapError LedgerError.ofStore).map fun _ => t, (s.record t).2)) s
  else (.error .invalidTransaction, s)

def balance (fired : Option Interruption) (user : UserId) : Store → Except LedgerError Amount × Store :=
  interruptible fired fun s => (((s.find user).mapError LedgerError.ofStore).map User.balance, s)

def history (fired : Option Interruption) (user : UserId) (page size : Nat) (s : Store) :
    Except LedgerError (List Transaction) × Store :=
  match Page.of? page size with
  | none => (.error .invalidPagination, s)
  | some page =>
    interruptible fired (fun s =>
      (match s.find user with
        | .ok _ => (s.page user page).mapError LedgerError.ofStore
        | .error e => .error (LedgerError.ofStore e), s)) s

section Calls

variable (signal : Signal) (answer : Except LedgerError α → β) (m : Moment) (s : Store)

lemma ends_operation {work : Work Store (Except LedgerError α)} (report : Except LedgerError α → List Event)
    {f : Store → Except LedgerError α × Store} (h : ∀ now s, work.run now s = (.finished (f s).1, (f s).2)) :
    ((Call.operation work report).task signal answer).Ends m s (answer (interruptible (signal.check m) f s).1)
      (interruptible (signal.check m) f s).2 := by
  cases hc : signal.check m with
  | some i =>
    refine ⟨report (.error i.error), ?_⟩
    simp [Call.task, Task.under, Task.start, Task.refusal?, Guard.refusal?, hc, Call.outcome, interruptible]
  | none =>
    have hrun := Work.run_map (Call.outcome report answer) (h m.now s)
    refine ⟨report (f s).1, ?_⟩
    simpa [Call.task, Task.under, Task.start, Task.refusal?, Guard.refusal?, hc, Call.outcome, interruptible] using hrun

lemma ends_createUser (answer : Except LedgerError User → β) (user : UserId) :
    ((Manager.createUser Store.repository user).task signal answer).Ends m s
      (answer (createUser (signal.check m) user s).1) (createUser (signal.check m) user s).2 :=
  ends_operation signal answer m s _ fun _ _ => rfl

lemma ends_addTransaction (answer : Except LedgerError Transaction → β) (t : Transaction) :
    ((Manager.addTransaction Store.repository t).task signal answer).Ends m s
      (answer (addTransaction (signal.check m) t s).1) (addTransaction (signal.check m) t s).2 := by
  by_cases hv : t.isValid
  · simp only [Manager.addTransaction, addTransaction, if_pos hv]
    exact ends_operation signal answer m s _ fun _ _ => rfl
  · simp only [Manager.addTransaction, addTransaction, if_neg hv]
    exact Task.ends_settled _

lemma ends_balance (answer : Except LedgerError Amount → β) (user : UserId) :
    ((Manager.balance Store.repository user).task signal answer).Ends m s
      (answer (balance (signal.check m) user s).1) (balance (signal.check m) user s).2 :=
  ends_operation signal answer m s _ fun _ _ => rfl

lemma ends_history (answer : Except LedgerError (List Transaction) → β) (user : UserId) (page size : Nat) :
    ((Manager.history Store.repository user page size).task signal answer).Ends m s
      (answer (history (signal.check m) user page size s).1) (history (signal.check m) user page size s).2 := by
  cases hp : Page.of? page size with
  | none =>
    simp only [Manager.history, history, hp]
    exact Task.ends_settled _
  | some p =>
    simp only [Manager.history, history, hp]
    refine ends_operation signal answer m s _ fun now s => ?_
    cases hf : s.find user with
    | ok u => simp [Manager.historyWork, Manager.relay, Work.map, Work.bind, Work.run, Store.repository, Work.look,
        Work.modify, hf, Except.mapError]
    | error e => simp [Manager.historyWork, Manager.relay, Work.map, Work.bind, Work.run, Store.repository, Work.look,
        Work.modify, hf, Except.mapError]

end Calls

section Results

variable {fired : Option Interruption} {s : Store}

lemma createUser_of_registered {user : UserId} (h : s.isRegistered user) :
    createUser none user s = (.error .userAlreadyExists, s) := by
  simp [createUser, interruptible, Store.addUser_of_registered h, Except.mapError, LedgerError.ofStore]

lemma createUser_of_new {user : UserId} (h : ¬ s.isRegistered user) :
    createUser none user s = (.ok ⟨user, Amount.zero⟩, s.register user) := by
  simp [createUser, interruptible, Store.addUser_of_new h, Except.mapError]

lemma createUser_cases (fired : Option Interruption) (user : UserId) (s : Store) :
    (∃ e, createUser fired user s = (.error e, s)) ∨
    (¬ s.isRegistered user ∧ createUser fired user s = (.ok ⟨user, Amount.zero⟩, s.register user)) := by
  cases fired with
  | some i => exact .inl ⟨i.error, rfl⟩
  | none =>
    by_cases h : s.isRegistered user
    · exact .inl ⟨_, createUser_of_registered h⟩
    · exact .inr ⟨h, createUser_of_new h⟩

lemma addTransaction_of_invalid {t : Transaction} (h : ¬ t.isValid) :
    addTransaction fired t s = (.error .invalidTransaction, s) := by
  simp [addTransaction, h]

lemma addTransaction_of_refused {t : Transaction} (hv : t.isValid) {e : StoreError} (h : s.refusal? t = some e) :
    addTransaction none t s = (.error (.ofStore e), s) := by
  simp [addTransaction, hv, interruptible, Store.record_of_refused h, Except.mapError, Except.map]

lemma addTransaction_of_accepted {t : Transaction} (hv : t.isValid) (h : s.refusal? t = none) :
    addTransaction none t s = (.ok t, s.put t) := by
  simp [addTransaction, hv, interruptible, Store.record_of_accepted h, Except.mapError, Except.map]

lemma addTransaction_cases (fired : Option Interruption) (t : Transaction) (s : Store) :
    (∃ e, addTransaction fired t s = (.error e, s)) ∨
    (t.isValid ∧ s.refusal? t = none ∧ addTransaction fired t s = (.ok t, s.put t)) := by
  by_cases hv : t.isValid
  · cases fired with
    | some i => exact .inl ⟨i.error, by simp [addTransaction, hv, interruptible]⟩
    | none =>
      cases hr : s.refusal? t with
      | some e => exact .inl ⟨_, addTransaction_of_refused hv hr⟩
      | none => exact .inr ⟨hv, rfl, addTransaction_of_accepted hv hr⟩
  · exact .inl ⟨_, addTransaction_of_invalid hv⟩

lemma addTransaction_error {t : Transaction} {e : LedgerError} (h : (addTransaction fired t s).1 = .error e) :
    e = .invalidTransaction ∨ (∃ i : Interruption, e = i.error) ∨ ∃ c, s.refusal? t = some c ∧ e = .ofStore c := by
  by_cases hv : t.isValid
  · cases fired with
    | some i =>
      have hi : (addTransaction (some i) t s).1 = .error i.error := by simp [addTransaction, hv, interruptible]
      exact .inr (.inl ⟨i, Except.error.inj (h.symm.trans hi)⟩)
    | none =>
      cases hr : s.refusal? t with
      | none => simp [addTransaction_of_accepted hv hr] at h
      | some c =>
        rw [addTransaction_of_refused hv hr] at h
        exact .inr (.inr ⟨c, rfl, (Except.error.inj h).symm⟩)
  · rw [addTransaction_of_invalid hv] at h
    exact .inl (Except.error.inj h).symm

lemma balance_snd (fired : Option Interruption) (user : UserId) (s : Store) : (balance fired user s).2 = s := by
  cases fired <;> rfl

lemma history_snd (fired : Option Interruption) (user : UserId) (page size : Nat) (s : Store) :
    (history fired user page size s).2 = s := by
  unfold history
  cases Page.of? page size with
  | none => rfl
  | some p => cases fired <;> rfl

lemma exists_page_of_ok {fired : Option Interruption} {user : UserId} {page size : Nat} {s : Store}
    {ts : List Transaction} (h : (history fired user page size s).1 = .ok ts) :
    ∃ p, Page.of? page size = some p ∧ ts = p.select (s.history user) := by
  unfold history at h
  cases hp : Page.of? page size with
  | none => simp [hp] at h
  | some p =>
    cases fired with
    | some i => simp [hp, interruptible] at h
    | none =>
      cases hf : s.find user with
      | error e => simp [hp, interruptible, hf] at h
      | ok u =>
        simp only [hp, interruptible, hf] at h
        cases ha : s.account? user with
        | none => simp [Store.page, ha, Except.mapError] at h
        | some a =>
          simp only [Store.page, ha, Except.mapError, Except.ok.injEq] at h
          exact ⟨p, rfl, by rw [← h, Store.history_of_account? ha]⟩

end Results

end Ledger

def Answer.error? : Answer → Option LedgerError
  | .user (.error e) | .transaction (.error e) | .balance (.error e) | .history (.error e) => some e
  | _ => none

namespace Request

def deposit? : Request → Option Transaction
  | .addTransaction t => if t.isValid then some t else none
  | _ => none

/-- The answer of a call on the store itself, and the store after it. -/
def settle (fired : Option Interruption) (s : Store) : Request → Answer × Store
  | createUser user => (Ledger.createUser fired user s).map .user id
  | addTransaction t => (Ledger.addTransaction fired t s).map .transaction id
  | balance user => (Ledger.balance fired user s).map .balance id
  | history user page size => (Ledger.history fired user page size s).map .history id

lemma settle_of_error {r : Request} {fired : Option Interruption} {s : Store} {e : LedgerError}
    (h : (r.settle fired s).1.error? = some e) : (r.settle fired s).2 = s := by
  cases r with
  | createUser user =>
    rcases Ledger.createUser_cases fired user s with ⟨e', hc⟩ | ⟨-, hc⟩
    · simp [settle, hc]
    · simp [settle, hc, Answer.error?] at h
  | addTransaction t =>
    rcases Ledger.addTransaction_cases fired t s with ⟨e', hc⟩ | ⟨-, -, hc⟩
    · simp [settle, hc]
    · simp [settle, hc, Answer.error?] at h
  | balance user => exact Ledger.balance_snd fired user s
  | history user page size => exact Ledger.history_snd fired user page size s

lemma deposit?_eq_some {r : Request} {t : Transaction} (h : r.deposit? = some t) :
    r = .addTransaction t ∧ t.isValid := by
  unfold deposit? at h
  split at h
  · split at h
    · next hv =>
      cases h
      exact ⟨rfl, hv⟩
    · cases h
  · cases h

lemma deposit?_of_valid {t : Transaction} (h : t.isValid) : (addTransaction t).deposit? = some t := if_pos h

lemma settle_cases (r : Request) (fired : Option Interruption) (s : Store) : (r.settle fired s).2 = s ∨
    (∃ user, r = createUser user ∧ ¬ s.isRegistered user ∧ (r.settle fired s).2 = s.register user) ∨
    ∃ t, r = addTransaction t ∧ t.isValid ∧ s.refusal? t = none ∧ (r.settle fired s).2 = s.put t := by
  cases r with
  | createUser user =>
    rcases Ledger.createUser_cases fired user s with ⟨e, hc⟩ | ⟨hnew, hc⟩
    · exact .inl (by simp [settle, hc])
    · exact .inr (.inl ⟨user, rfl, hnew, by simp [settle, hc]⟩)
  | addTransaction t =>
    rcases Ledger.addTransaction_cases fired t s with ⟨e, hc⟩ | ⟨hv, hr, hc⟩
    · exact .inl (by simp [settle, hc])
    · exact .inr (.inr ⟨t, rfl, hv, hr, by simp [settle, hc]⟩)
  | balance user => exact .inl (Ledger.balance_snd fired user s)
  | history user page size => exact .inl (Ledger.history_snd fired user page size s)

lemma ends_task (r : Request) (signal : Signal) (m : Moment) (s : Store) :
    (r.task Store.repository signal).Ends m s (r.settle (signal.check m) s).1 (r.settle (signal.check m) s).2 := by
  cases r with
  | createUser user => exact Ledger.ends_createUser signal m s _ user
  | addTransaction t => exact Ledger.ends_addTransaction signal m s _ t
  | balance user => exact Ledger.ends_balance signal m s _ user
  | history user page size => exact Ledger.ends_history signal m s _ user page size

end Request

end Passbook
