import Passbook.Proofs.Amount.Normal
import Passbook.Proofs.History.Pages
import Passbook.Proofs.Manager.Request
import Passbook.Proofs.Repository.Journal
import Passbook.Repository.Faulty

/-! The ledger over any repository is a relay: each call asks what it has to, once, and passes on what it is told. -/

namespace Passbook

inductive LedgerError.Conveys : StoreError → LedgerError → Prop
  | conflict (id : TransactionId) : Conveys (.conflict id) .transactionAlreadyExists
  | userExists (user : UserId) : Conveys (.userExists user) .userAlreadyExists
  | notFound : Conveys .notFound .userNotFound
  | storage {e : StoreError} : (∀ id, e ≠ .conflict id) → (∀ user, e ≠ .userExists user) → e ≠ .notFound →
      Conveys e (.storage e)

inductive Relays {α β : Type} (f : α → β) : Except StoreError α → Except LedgerError β → Prop
  | ok (a : α) : Relays f (.ok a) (.ok (f a))
  | error {e : StoreError} {e' : LedgerError} : LedgerError.Conveys e e' → Relays f (.error e) (.error e')

namespace Request

def rejection? : Request → Option LedgerError
  | addTransaction t => if 0 < t.amount.value then none else some .invalidTransaction
  | history _ number size => if number = 0 ∨ size = 0 then some .invalidPagination else none
  | createUser _ | balance _ => none

def failure (e : LedgerError) : Request → Answer
  | createUser _ => .user (.error e)
  | addTransaction _ => .transaction (.error e)
  | balance _ => .balance (.error e)
  | history _ _ _ => .history (.error e)

/-- The journal of a call that has ended on its own, and its answer. -/
inductive Ends : Request → List Entry → Answer → Prop
  | createUser {user : UserId} {x : Except StoreError User} {y : Except LedgerError User} : Relays id x y →
      Ends (.createUser user) [.asked (.addUser user), .answered (.addUser user) x] (.user y)
  | addTransaction {t : Transaction} {x : Except StoreError Unit} {y : Except LedgerError Transaction} :
      Relays (fun _ => t) x y →
      Ends (.addTransaction t) [.asked (.addTransaction t), .answered (.addTransaction t) x] (.transaction y)
  | balance {user : UserId} {x : Except StoreError User} {y : Except LedgerError Amount} : Relays User.balance x y →
      Ends (.balance user) [.asked (.findUser user), .answered (.findUser user) x] (.balance y)
  | unfound {user : UserId} {number size : Nat} {e : StoreError} {e' : LedgerError} : LedgerError.Conveys e e' →
      Ends (.history user number size) [.asked (.findUser user), .answered (.findUser user) (.error e)]
        (.history (.error e'))
  | history {user : UserId} {p : Page} {u : User} {x : Except StoreError (List Transaction)}
      {y : Except LedgerError (List Transaction)} : Relays id x y →
      Ends (.history user p.number p.size) [.asked (.findUser user), .answered (.findUser user) (.ok u),
        .asked (.history user p), .answered (.history user p) x] (.history y)

section Tasks

open Work

variable {σ : Type} {req : Request}

lemma isValid_iff {t : Transaction} : t.isValid ↔ 0 < t.amount.value := Amount.isPositive_iff

lemma of?_eq_none_iff {number size : Nat} : Page.of? number size = none ↔ number = 0 ∨ size = 0 := by
  unfold Page.of?
  split <;> simp <;> omega

lemma isValid_of_unrejected {t : Transaction} (h : (addTransaction t).rejection? = none) : t.isValid := by
  rw [isValid_iff]
  by_contra hv
  simp [rejection?, hv] at h

lemma exists_page_of_unrejected {user : UserId} {number size : Nat}
    (h : (history user number size).rejection? = none) :
    ∃ p : Page, p.number = number ∧ p.size = size ∧ Page.of? number size = some p := by
  cases hp : Page.of? number size with
  | none => simp [rejection?, of?_eq_none_iff.mp hp] at h
  | some p =>
    obtain ⟨hnumber, hsize⟩ := Page.of?_eq_some hp
    exact ⟨p, hnumber, hsize, rfl⟩

lemma task_of_rejection {e : LedgerError} (h : req.rejection? = some e) (r : Repository σ) (signal : Signal) :
    req.task r signal = .settled ⟨[], req.failure e⟩ := by
  cases req with
  | createUser user => cases h
  | balance user => cases h
  | addTransaction t =>
    simp only [rejection?] at h
    split at h
    · cases h
    · next hv =>
      cases h
      rw [task, Manager.addTransaction, if_neg (isValid_iff.not.mpr hv)]
      rfl
  | history user number size =>
    simp only [rejection?] at h
    split at h
    · next hp =>
      cases h
      rw [task, Manager.history, of?_eq_none_iff.mpr hp]
      rfl
    · cases h

end Tasks

section Looks

variable {σ : Type} {req : Request} {r : Repository σ} {signal : Signal} {m : Moment} {s : σ}

def attend (req : Request) (r : Repository σ) (signal : Signal) (m : Moment) (s : σ) (looks : List (Look σ)) :
    Work.Stop (Journal σ) (Outcome Answer) × Journal σ :=
  (req.task r.journaled signal).attend m ⟨s, []⟩ (looks.map Look.onJournal)

lemma entries_foldl_change (j : Journal σ) (looks : List (Look σ)) :
    ((looks.map Look.onJournal).foldl (fun j l => l.change j) j).entries = j.entries := by
  induction looks generalizing j with
  | nil => rfl
  | cons l looks ih => exact ih (j.onState l.change)

lemma attend_concat (before : List (Look σ)) (l : Look σ) : req.attend r signal m s (before ++ [l]) =
    Task.look (req.task r.journaled signal).guard (req.attend r signal m s before) l.onJournal := by
  rw [attend, List.map_append]
  exact Task.attend_concat (before.map Look.onJournal) l.onJournal

end Looks

end Request

end Passbook
