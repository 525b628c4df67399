import Passbook.Manager
import Passbook.Proofs.Repository.Wrapping

/-! The four calls of the ledger as data. Through a repository in front of a store, a call that registers or records
does one operation of the store at most once, and says in its answer how that went; the other calls only read. -/

namespace Passbook

open Work

def Transaction.ofNumbers (id : UInt8) (seconds coefficient : Int) (scale : Nat) : Transaction where
  id := ⟨(Uuid.ofBytes? (id :: List.replicate 15 0)).getD default⟩
  userId := default
  amount := (Amount.of? coefficient scale).getD default
  createdAt := (Instant.of? seconds 0).getD default
  idempotencyKey := default

inductive Request where
  | createUser (user : UserId)
  | addTransaction (t : Transaction)
  | balance (user : UserId)
  | history (user : UserId) (page size : Nat)
  deriving DecidableEq, Repr

inductive Answer where
  | user (result : Except LedgerError User)
  | transaction (result : Except LedgerError Transaction)
  | balance (result : Except LedgerError Amount)
  | history (result : Except LedgerError (List Transaction))

namespace Request

variable {σ : Type}

def task (r : Repository σ) (signal : Signal) : Request → Task σ Answer
  | createUser user => (Manager.createUser r user).task signal .user
  | addTransaction t => (Manager.addTransaction r t).task signal .transaction
  | balance user => (Manager.balance r user).task signal .balance
  | history user page size => (Manager.history r user page size).task signal .history

end Request

namespace Answer

/-- An add that ended before the store was asked, or without its result. -/
def Unsettled (a : Answer) : Prop := ∃ e, a = .transaction (.error e) ∧ e ≠ .transactionAlreadyExists

def ofRecord (t : Transaction) (r : Except StoreError Unit) : Answer :=
  .transaction ((r.mapError LedgerError.ofStore).map fun _ => t)

def Settles (t : Transaction) (r : Except StoreError Unit) (a : Answer) : Prop := a = ofRecord t r ∨ a.Unsettled

lemma Settles.ok {t u : Transaction} {r : Except StoreError Unit} {a : Answer} (h : a.Settles t r)
    (ha : a = .transaction (.ok u)) : r = .ok () ∧ u = t := by
  rcases h with h | ⟨e, h, -⟩
  · cases r with
    | ok =>
      rw [ha] at h
      exact ⟨rfl, by injection h with h; injection h⟩
    | error e => rw [ha] at h; cases h
  · rw [ha] at h; cases h

lemma Settles.exists {t : Transaction} {r : Except StoreError Unit} {a : Answer} (h : a.Settles t r)
    (ha : a = .transaction (.error .transactionAlreadyExists)) : ∃ id, r = .error (.conflict id) := by
  subst ha
  rcases h with h | ⟨e, h, hne⟩
  · cases r with
    | ok => cases h
    | error e => cases e <;> first | exact ⟨_, rfl⟩ | cases h
  · cases h
    exact absurd rfl hne

end Answer

namespace Request

open Repository

variable {σ : Type} {r : Repository σ} {view : σ → Store} {faults : StoreError → Prop}

lemma ofStore_ne_exists {e : StoreError} (he : ∀ id, e ≠ .conflict id) :
    LedgerError.ofStore e ≠ .transactionAlreadyExists := by
  cases e with
  | conflict id => exact absurd rfl (he id)
  | userExists | notFound | balanceOverflow | unavailable | backend => intro h; cases h

lemma work_add (r : Repository σ) (signal : Signal) {t : Transaction} (hv : t.isValid) :
    (task r signal (addTransaction t)).work = (r.addTransaction t).map fun x =>
      ⟨Manager.reportAdded t ((x.mapError LedgerError.ofStore).map fun _ => t), Answer.ofRecord t x⟩ := by
  simp only [task, Manager.addTransaction, if_pos hv, Call.task, Task.under, Manager.relay, map_map]
  rfl

lemma once_add (h : r.Wraps view faults) (hf : ∀ e, faults e → ∀ id, e ≠ .conflict id) (signal : Signal)
    (t : Transaction) :
    Once view (Store.record t) (fun o => o.answer.Unsettled) (fun x o => o.answer.Settles t x)
      (task r signal (addTransaction t)).work := by
  by_cases hv : t.isValid
  · have hfail : ∀ x, Fails faults x → (Answer.ofRecord t x).Unsettled := by
      rintro _ ⟨e, he, rfl⟩
      exact ⟨_, rfl, ofStore_ne_exists (hf e he)⟩
    rw [work_add r signal hv]
    refine (h.addTransaction t).map hfail ?_
    rintro x y (rfl | hy)
    · exact .inl rfl
    · exact .inr (hfail y hy)
  · simp only [task, Manager.addTransaction, if_neg hv]
    exact .quit (.done ⟨_, rfl, by simp⟩)

lemma unsettled_interrupted (r : Repository σ) (signal : Signal) (t : Transaction) {g : Guard Answer}
    (hg : (task r signal (addTransaction t)).guard = some g) (started : Bool) (i : Interruption) :
    (g.interrupted started i).answer.Unsettled := by
  by_cases hv : t.isValid
  · simp only [task, Manager.addTransaction, if_pos hv, Call.task, Task.under, Option.some.injEq] at hg
    subst hg
    exact ⟨i.error, rfl, by cases i <;> simp [Interruption.error]⟩
  · simp only [task, Manager.addTransaction, if_neg hv] at hg
    cases hg

lemma signal_guard (r : Repository σ) (signal : Signal) (req : Request) :
    ∀ g ∈ (req.task r signal).guard, g.signal = signal := by
  cases req with
  | createUser user => simp [task, Manager.createUser, Call.task, Task.under]
  | addTransaction t =>
    by_cases hv : t.isValid <;> simp [task, Manager.addTransaction, hv, Call.task, Task.under, Task.settled]
  | balance user => simp [task, Manager.balance, Call.task, Task.under]
  | history user number size =>
    cases hp : Page.of? number size <;> simp [task, Manager.history, hp, Call.task, Task.under, Task.settled]

lemma once_createUser (h : r.Wraps view faults) (signal : Signal) (user : UserId) :
    Once view (Store.addUser user) (fun _ => True) (fun _ _ => True) (task r signal (createUser user)).work := by
  simp only [task, Manager.createUser, Call.task, Task.under, Manager.relay, map_map]
  exact (h.addUser user).map (fun _ _ => trivial) fun _ _ _ => trivial

lemma quiet_balance (h : r.Wraps view faults) (signal : Signal) (user : UserId) :
    Quiet view (fun _ => True) (task r signal (balance user)).work := by
  simp only [task, Manager.balance, Call.task, Task.under, Manager.relay, map_map]
  exact ((h.findUser user).quiet fun _ => rfl).map fun _ _ => trivial

lemma quiet_history (h : r.Wraps view faults) (signal : Signal) (user : UserId) (page size : Nat) :
    Quiet view (fun _ => True) (task r signal (history user page size)).work := by
  cases hp : Page.of? page size with
  | none =>
    simp only [task, Manager.history, hp, Call.task, Task.settled]
    exact .done trivial
  | some p =>
    have hfind := (h.findUser user).quiet fun _ => rfl
    have hpage := (h.history user p).quiet fun _ => rfl
    have hrelay : Quiet view (fun _ => True) (Manager.relay (r.findUser user)) := hfind.map fun _ _ => trivial
    have hwork : Quiet view (fun _ => True) (Manager.historyWork r user p) := by
      apply hrelay.bind
      intro x _
      cases x with
      | ok => exact hpage.map fun _ _ => trivial
      | error e => exact .done trivial
    simp only [task, Manager.history, hp, Call.task, Task.under]
    exact hwork.map fun _ _ => trivial

end Request

end Passbook
