import Passbook.Proofs.Manager.Balance
import Passbook.Proofs.Traffic.AllOrNothing

/-! The step at which a call on the store itself has its effect: the one after which only its answer is left. Up to that
step, what is left of the call comes to what the whole call comes to when it is made at once. -/

namespace Passbook

open Work Store

namespace Visit

variable {v : Visit} {s s' : Store} {rest : Work Store (Outcome Answer)}

def work (v : Visit) : Work Store (Outcome Answer) := (v.request.task Store.repository v.signal).work

def pageWork (user : UserId) (p : Page) : Work Store (Outcome Answer) :=
  (Manager.relay (Store.repository.history user p)).map (Call.outcome (Manager.reportError .userHistory user) .history)

inductive Left (v : Visit) (s : Store) : Work Store (Outcome Answer) → Prop
  | whole : Left v s v.work
  | page {user : UserId} {number size : Nat} {p : Page} : v.request = .history user number size →
      Page.of? number size = some p → s.isRegistered user → Left v s (pageWork user p)

lemma start_eq_work (hun : v.IsUnfired) : v.start s = v.work.run v.moment.now s := by
  have hguard : ∀ g ∈ (v.request.task Store.repository v.signal).guard, g.signal.check v.moment = none := by
    intro g hg
    rw [v.request.signal_guard _ _ g hg]
    exact hun
  simp only [start, Task.start, Task.refusal?_eq_none hguard]
  rfl

lemma work_history {user : UserId} {number size : Nat} {p : Page} (hr : v.request = .history user number size)
    (hp : Page.of? number size = some p) : v.work =
      (Manager.historyWork Store.repository user p).map
        (Call.outcome (Manager.reportError .userHistory user) .history) := by
  simp only [work, hr, Request.task, Manager.history, hp, Call.task, Task.under]

lemma exists_historyWork (user : UserId) (p : Page) : ∃ next, (Manager.historyWork Store.repository user p).map
      (Call.outcome (Manager.reportError .userHistory user) .history) = .act id next ∧
    (∀ s u, s.find user = .ok u → next s = pageWork user p) ∧
    ∀ s e, s.find user = .error e → ∃ o, next s = .done o := by
  refine ⟨_, rfl, ?_, ?_⟩
  · intro s u hu
    simp [Manager.relay, Work.map, Work.bind, hu, Except.mapError, pageWork]
  · intro s e he
    simp [Work.bind, he, Except.mapError]

lemma Left.mono (h : v.Left s rest) (hs : ∀ user, s.isRegistered user → s'.isRegistered user) : v.Left s' rest := by
  cases h with
  | whole => exact .whole
  | page hr hp hreg => exact .page hr hp (hs _ hreg)

lemma Left.start_eq (h : v.Left s rest) (hun : v.IsUnfired)
    (hread : ∀ user, s.isRegistered user → ∃ u, s.find user = .ok u) : v.start s = rest.run v.moment.now s := by
  rw [start_eq_work hun]
  cases h with
  | whole => rfl
  | page hr hp hreg =>
    obtain ⟨u, hu⟩ := hread _ hreg
    obtain ⟨next, hnext, hfound, -⟩ := exists_historyWork _ _
    rw [work_history hr hp, hnext, Work.run, hfound _ u hu, id]

lemma Left.cases (h : v.Left s rest) : (∃ o, rest = .done o) ∨ ∃ f next, rest = .act f next ∧
    ((∃ o, next s = .done o) ∨ f s = s ∧ v.Left s (next s) ∧ ∀ o, next s ≠ .done o) := by
  cases h with
  | page => exact .inr ⟨_, _, rfl, .inl ⟨_, rfl⟩⟩
  | whole =>
    cases hr : v.request with
    | createUser user =>
      have hw : v.work = _ := hr ▸ Traffic.work_create v.signal user
      exact .inr ⟨_, _, hw, .inl ⟨_, rfl⟩⟩
    | addTransaction t =>
      by_cases hv : t.isValid
      · exact .inr ⟨_, _, hr ▸ Request.work_add Store.repository v.signal hv, .inl ⟨_, rfl⟩⟩
      · left
        simp [work, hr, Request.task, Manager.addTransaction, if_neg hv, Call.task, Task.settled]
    | balance user =>
      have hw : v.work = ((Manager.relay (Store.repository.findUser user)).map fun result => result.map User.balance).map
          (Call.outcome (Manager.reportError .userBalance user) .balance) := by
        simp only [work, hr, Request.task, Manager.balance, Call.task, Task.under]
      exact .inr ⟨_, _, hw, .inl ⟨_, rfl⟩⟩
    | history user number size =>
      cases hp : Page.of? number size with
      | none =>
        left
        simp [work, hr, Request.task, Manager.history, hp, Call.task, Task.settled]
      | some p =>
        obtain ⟨next, hnext, hfound, hmissing⟩ := exists_historyWork user p
        refine .inr ⟨_, next, (work_history hr hp).trans hnext, ?_⟩
        cases hu : s.find user with
        | ok u =>
          rw [hfound s u hu]
          exact .inr ⟨rfl, .page hr hp (find_eq_ok_iff.mp hu).1, fun o ho => by cases ho⟩
        | error e => exact .inl (hmissing s e hu)

end Visit

namespace Flight

variable {v : Visit} {s s' : Store} {fl : Flight Store Answer}

def isOver {σ β : Type} : Flight σ β → Bool
  | active _ (.done _) => true
  | answered _ => true
  | _ => false

def Pending (v : Visit) (s : Store) : Flight Store Answer → Prop
  | ready task => task = v.request.task Store.repository v.signal
  | active guard rest => (∀ g ∈ guard, g.signal = v.signal) ∧ v.Left s rest ∧ ∀ o, rest ≠ .done o
  | waiting guard _ rest => (∀ g ∈ guard, g.signal = v.signal) ∧ v.Left s rest
  | answered _ => False
  | dropped => True

namespace Pending

lemma mono (h : fl.Pending v s) (hs : ∀ user, s.isRegistered user → s'.isRegistered user) : fl.Pending v s' := by
  cases fl with
  | active guard rest => exact ⟨h.1, h.2.1.mono hs, h.2.2⟩
  | waiting guard wake rest => exact ⟨h.1, h.2.mono hs⟩
  | ready | answered | dropped => exact h

lemma drop (h : fl.Pending v s) : fl.drop.Pending v s := by
  cases fl with
  | answered o => exact h
  | ready | active | waiting | dropped => exact trivial

lemma not_isOver (h : fl.Pending v s) : fl.isOver = false := by
  cases fl with
  | active guard rest =>
    cases rest with
    | done o => exact absurd rfl (h.2.2 o)
    | act | sleep | hang => rfl
  | answered o => exact h.elim
  | ready | waiting | dropped => rfl

lemma next (h : fl.Pending v s) (hun : v.IsUnfired) {m : Moment} (hm : v.signal.check m = none)
    (hread : ∀ user, s.isRegistered user → ∃ u, s.find user = .ok u) (preferred : Interruption) :
    ((fl.next preferred m s).2 = s ∧ (fl.next preferred m s).1.Pending v s) ∨
    ((fl.next preferred m s).2 = v.after s ∧ (fl.next preferred m s).1.isOver ∧
      (fl.next preferred m s).1.Over fun o => v.answer? s = some o.answer) := by
  have hguard : ∀ {guard : Option (Guard Answer)}, (∀ g ∈ guard, g.signal = v.signal) →
      ∀ g ∈ guard, g.signal.check m = none := by
    intro guard hg g hmem
    rw [hg g hmem, hm]
  cases fl with
  | ready task =>
    obtain rfl : task = _ := h
    have hsignal := v.request.signal_guard Store.repository v.signal
    left
    rw [Flight.next, Task.refusal?_eq_none (hguard hsignal)]
    exact ⟨rfl, hsignal, .whole⟩
  | waiting guard wake rest =>
    obtain ⟨hg, hleft⟩ := h
    rw [Flight.next, Guard.interruption?_eq_none (hguard hg)]
    by_cases hwake : wake.any (· ≤ m.now)
    · rw [if_pos hwake]
      -- a call that is refused as it stands has no effect to wait for
      by_cases hdone : ∃ o, rest = .done o
      · obtain ⟨o, rfl⟩ := hdone
        have hstart : v.start s = (.finished o, s) := hleft.start_eq hun hread
        exact .inr ⟨by rw [Visit.after, hstart], rfl, by simp [Over, Visit.answer?, hstart]⟩
      · exact .inl ⟨rfl, hg, hleft, fun o ho => hdone ⟨o, ho⟩⟩
    · rw [if_neg hwake]
      exact .inl ⟨rfl, hg, hleft⟩
  | active guard rest =>
    obtain ⟨hg, hleft, hne⟩ := h
    rcases hleft.cases with ⟨o, rfl⟩ | ⟨f, next, rfl, ⟨o, ho⟩ | ⟨hf, hnext, hne'⟩⟩
    · exact absurd rfl (hne o)
    · have hstart : v.start s = (.finished o, f s) := by
        rw [hleft.start_eq hun hread, Work.run, ho, Work.run]
      right
      rw [Flight.next, ho]
      exact ⟨by rw [Visit.after, hstart], rfl, by simp [Over, Visit.answer?, hstart]⟩
    · left
      rw [Flight.next, hf]
      exact ⟨rfl, hg, hnext, hne'⟩
  | answered o => exact h.elim
  | dropped => exact .inl ⟨rfl, trivial⟩

end Pending

lemma Over.isOver_next {good : Outcome Answer → Prop} (h : fl.Over good) (hn : fl.isOver = false)
    (preferred : Interruption) (m : Moment) (s : Store) : (fl.next preferred m s).1.isOver = false := by
  cases fl with
  | active guard rest =>
    cases rest with
    | done o => cases hn
    | act | sleep | hang => cases h
  | answered o => cases hn
  | dropped => rfl
  | ready | waiting => cases h

end Flight

namespace Traffic

variable {ι σ β : Type} (w : Traffic ι σ β)

def commits : Turn ι → List ι
  | .step i preferred =>
    if !(w.flights i).isOver && ((w.flights i).next preferred w.moment w.state).1.isOver then [i] else []
  | _ => []

lemma commits_step (i : ι) (preferred : Interruption) : w.commits (.step i preferred) =
    if !(w.flights i).isOver && ((w.flights i).next preferred w.moment w.state).1.isOver then [i] else [] := rfl

variable [DecidableEq ι]

/-- The calls in the order of their effects. -/
def order (w : Traffic ι σ β) : List (Turn ι) → List ι
  | [] => []
  | t :: turns => w.commits t ++ (w.turn t).order turns

lemma order_append (turns later : List (Turn ι)) : w.order (turns ++ later) =
    w.order turns ++ (w.play turns).order later := by
  induction turns generalizing w with
  | nil => rfl
  | cons t turns ih =>
    rw [List.cons_append, order, ih, order, List.append_assoc]
    rfl

end Traffic

end Passbook
