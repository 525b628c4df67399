import Passbook.Proofs.Manager.Session
import Passbook.Proofs.Traffic.Identity

/-! What calls do to the store that they share: each of them the whole of its operation, at one step and at most once,
or nothing. On the store itself a call that ends in an error has done nothing. -/

namespace Passbook

open Work Store

def Request.complete : Request → Store → Store
  | createUser user, s => (s.addUser user).2
  | addTransaction t, s => (s.record t).2
  | balance _, s => s
  | history _ _ _, s => s

namespace Flight

variable {σ β : Type}

/-- All that is left of the call is to give an outcome with the property. -/
def Over (good : Outcome β → Prop) : Flight σ β → Prop
  | active _ (.done o) => good o
  | answered o => good o
  | dropped => True
  | _ => False

lemma Over.drop {good : Outcome β → Prop} {fl : Flight σ β} (h : fl.Over good) : fl.drop.Over good := by
  cases fl with
  | answered o => exact h
  | ready | active | waiting | dropped => exact trivial

lemma next_over {good : Outcome β → Prop} {fl : Flight σ β} (h : fl.Over good) (preferred : Interruption) (m : Moment)
    (s : σ) : (fl.next preferred m s).2 = s ∧ (fl.next preferred m s).1.Over good := by
  cases fl with
  | active guard work =>
    cases work with
    | done o => exact ⟨rfl, h⟩
    | act | sleep | hang => cases h
  | answered o => exact ⟨rfl, h⟩
  | dropped => exact ⟨rfl, h⟩
  | ready | waiting => cases h

end Flight

namespace Traffic

variable {ι σ : Type} {view : σ → Store}

/-- A call that has not done its operation does it in one step or leaves the store alone, and one that has leaves it
alone for good. -/
structure Atomic (view : σ → Store) (operation : Store → Store) (undone done : Flight σ Answer → Prop) : Prop where
  undone_next {fl} : undone fl → ∀ preferred m s,
    (view (fl.next preferred m s).2 = view s ∧ undone (fl.next preferred m s).1) ∨
      (view (fl.next preferred m s).2 = operation (view s) ∧ done (fl.next preferred m s).1)
  done_next {fl} : done fl → ∀ preferred m s,
    view (fl.next preferred m s).2 = view s ∧ done (fl.next preferred m s).1
  undone_drop {fl} : undone fl → undone fl.drop
  done_drop {fl} : done fl → done fl.drop

section Calls

variable {faults : StoreError → Prop} {r : Repository σ}

lemma once_complete (h : r.Wraps view faults) (signal : Signal) (req : Request) :
    Once view (fun s => ((), req.complete s)) (fun _ => True) (fun _ _ => True) (req.task r signal).work := by
  cases req with
  | createUser user => exact (Request.once_createUser h signal user).forget
  | addTransaction t =>
    by_cases hv : t.isValid
    · rw [Request.work_add r signal hv]
      exact ((h.addTransaction t).forget).map (fun _ _ => trivial) fun _ _ _ => trivial
    · simp only [Request.task, Manager.addTransaction, if_neg hv]
      exact .quit (.done trivial)
  | balance user => exact .quit (Request.quiet_balance h signal user)
  | history user page size => exact .quit (Request.quiet_history h signal user page size)

lemma work_create (signal : Signal) (user : UserId) : ((Request.createUser user).task r signal).work =
    (r.addUser user).map fun x =>
      ⟨Manager.reportCreated user (x.mapError LedgerError.ofStore), .user (x.mapError LedgerError.ofStore)⟩ := by
  simp only [Request.task, Manager.createUser, Call.task, Task.under, Manager.relay, map_map]
  rfl

lemma atomic_quiet (operation : Store → Store) : Atomic view operation
    (fun fl => fl.Meets (Quiet view fun _ => True) fun _ => True) fun _ => False where
  undone_next h _ _ s := .inl (Flight.next_quiet h s)
  done_next h := h.elim
  undone_drop h := h.drop
  done_drop h := h

lemma atomic_once (operation : Store → Store) : Atomic view operation
    (fun fl => fl.Meets (Once view (fun s => ((), operation s)) (fun _ => True) fun _ _ => True) fun _ => True)
    (fun fl => fl.Meets (Quiet view fun _ => True) fun _ => True) where
  undone_next h _ _ s := Flight.next_once (fun _ _ _ => trivial) h s
  done_next h _ _ s := Flight.next_quiet h s
  undone_drop h := h.drop
  done_drop h := h.drop

lemma atomic_modify {α : Type} {operation : Store → Except StoreError α × Store}
    {outcome : Except StoreError α → Outcome Answer} (hop : ∀ s e, (operation s).1 = .error e → (operation s).2 = s)
    (hok : ∀ a, (outcome (.ok a)).answer.error? = none) : Atomic id (fun s => (operation s).2)
    (fun fl => fl.Meets (fun work => work = (Work.modify operation).map outcome ∨ Quiet id (fun _ => True) work)
      fun _ => True)
    (fun fl => fl.Over fun o => o.answer.error? = none) where
  undone_next {fl} h preferred m s := by
    by_cases ha : ∃ guard, fl = .active guard ((Work.modify operation).map outcome)
    · obtain ⟨guard, rfl⟩ := ha
      cases hr : (operation s).1 with
      | ok a =>
        right
        have hgood := hok a
        rw [← hr] at hgood
        exact ⟨rfl, hgood⟩
      | error e =>
        -- a refused operation has left the store alone, so the call counts as one that has not done it
        left
        exact ⟨hop s e hr, .inr (.done trivial), fun _ _ _ _ => trivial⟩
    · left
      by_cases hactive : ∃ guard work, fl = .active guard work
      · obtain ⟨guard, work, rfl⟩ := hactive
        rcases h.1 with rfl | hq
        · exact absurd ⟨guard, rfl⟩ ha
        · have hfl : (Flight.active guard work).Meets (Quiet id fun _ => True) fun _ => True :=
            ⟨hq, fun _ _ _ _ => trivial⟩
          obtain ⟨hs, hm⟩ := Flight.next_quiet hfl s
          exact ⟨hs, hm.mono fun _ => .inr⟩
      · exact Flight.next_inactive h (fun guard work he => hactive ⟨guard, work, he⟩) s
  done_next h preferred m s := Flight.next_over h preferred m s
  undone_drop h := h.drop
  done_drop h := h.drop

lemma exists_atomic_wraps (h : r.Wraps view faults) (signal : Signal) (req : Request) :
    ∃ undone done, Atomic view req.complete undone done ∧ undone (.ready (req.task r signal)) :=
  ⟨_, _, atomic_once _, once_complete h signal req, fun _ _ _ _ => trivial⟩

lemma exists_atomic_store (signal : Signal) (req : Request) : ∃ undone done, Atomic id req.complete undone done ∧
    undone (.ready (req.task Store.repository signal)) ∧
      ∀ o, done (.answered o) → o.answer.error? = none := by
  have hwraps := Repository.wraps_store fun _ => True
  cases req with
  | createUser user =>
    exact ⟨_, _, atomic_modify (fun _ _ => addUser_of_error) fun _ => rfl,
      ⟨.inl (work_create signal user), fun _ _ _ _ => trivial⟩, fun _ h => h⟩
  | addTransaction t =>
    by_cases hv : t.isValid
    · exact ⟨_, _, atomic_modify (fun _ _ => record_of_error) fun _ => rfl,
        ⟨.inl (Request.work_add _ signal hv), fun _ _ _ _ => trivial⟩, fun _ h => h⟩
    · refine ⟨_, _, atomic_quiet _, ?_, fun _ h => h.elim⟩
      simp only [Request.task, Manager.addTransaction, if_neg hv]
      exact ⟨.done trivial, fun _ _ _ _ => trivial⟩
  | balance user =>
    exact ⟨_, _, atomic_quiet _, ⟨Request.quiet_balance hwraps signal user, fun _ _ _ _ => trivial⟩, fun _ h => h.elim⟩
  | history user page size =>
    exact ⟨_, _, atomic_quiet _, ⟨Request.quiet_history hwraps signal user page size, fun _ _ _ _ => trivial⟩,
      fun _ h => h.elim⟩

end Calls

def Moved (turns : List (Turn ι)) (i : ι) : Prop := ∃ preferred, .step i preferred ∈ turns

def completed (requests : ι → Request) (calls : List ι) (s : Store) : Store :=
  calls.foldl (fun s i => (requests i).complete s) s

lemma completed_append (requests : ι → Request) (calls more : List ι) (s : Store) :
    completed requests (calls ++ more) s = completed requests more (completed requests calls s) :=
  List.foldl_append

lemma Moved.mono {turns turns' : List (Turn ι)} {i : ι} (h : Moved turns i) (hsub : turns ⊆ turns') :
    Moved turns' i := by
  obtain ⟨preferred, hmem⟩ := h
  exact ⟨preferred, hsub hmem⟩

lemma consistent_completed {s : Store} (hs : s.Consistent) (requests : ι → Request) (calls : List ι) :
    (completed requests calls s).Consistent := by
  induction calls generalizing s with
  | nil => exact hs
  | cons i calls ih =>
    have hnext : ((requests i).complete s).Consistent := by
      cases requests i with
      | createUser user => exact hs.command (.addUser user)
      | addTransaction t => exact hs.command (.addTransaction t)
      | balance user => exact hs
      | history user page size => exact hs
    exact ih hnext

lemma completed_alone {requests : ι → Request} {calls : List ι} {s s' : Store} {i : ι} (hn : calls.Nodup)
    (halone : ∀ j ∈ calls, j = i) (hs : s' = completed requests calls s) :
    s' = s ∨ i ∈ calls ∧ s' = (requests i).complete s := by
  cases calls with
  | nil => exact .inl hs
  | cons j calls =>
    obtain ⟨rfl, halone⟩ := List.forall_mem_cons.mp halone
    cases calls with
    | nil => exact .inr ⟨List.mem_cons_self, hs⟩
    | cons k calls =>
      obtain rfl := halone k List.mem_cons_self
      exact absurd List.mem_cons_self (List.nodup_cons.mp hn).1

section Runs

variable [DecidableEq ι] {requests : ι → Request} {undone done : ι → Flight σ Answer → Prop} {w : Traffic ι σ Answer}
  {finished : List ι}

structure Stages (undone done : ι → Flight σ Answer → Prop) (w : Traffic ι σ Answer) (finished : List ι) : Prop where
  nodup : finished.Nodup
  done i : i ∈ finished → done i (w.flights i)
  undone i : i ∉ finished → undone i (w.flights i)

lemma Stages.update_of_done (h : Stages undone done w finished) {i : ι} (hi : i ∈ finished) {fl : Flight σ Answer}
    (hfl : done i fl) (m : Moment) (s : σ) :
    Stages undone done { moment := m, state := s, flights := Function.update w.flights i fl } finished where
  nodup := h.nodup
  done j hj := by
    by_cases hij : j = i
    · subst hij
      simpa using hfl
    · simpa [Function.update_of_ne hij] using h.done j hj
  undone j hj := by
    have hij : j ≠ i := fun hij => hj (hij ▸ hi)
    simpa [Function.update_of_ne hij] using h.undone j hj

lemma Stages.update_of_undone (h : Stages undone done w finished) {i : ι} (hi : i ∉ finished) {fl : Flight σ Answer}
    (hfl : undone i fl) (m : Moment) (s : σ) :
    Stages undone done { moment := m, state := s, flights := Function.update w.flights i fl } finished where
  nodup := h.nodup
  done j hj := by
    have hij : j ≠ i := fun hij => hi (hij ▸ hj)
    simpa [Function.update_of_ne hij] using h.done j hj
  undone j hj := by
    by_cases hij : j = i
    · subst hij
      simpa using hfl
    · simpa [Function.update_of_ne hij] using h.undone j hj

lemma Stages.finish (h : Stages undone done w finished) {i : ι} (hi : i ∉ finished) {fl : Flight σ Answer}
    (hfl : done i fl) (m : Moment) (s : σ) :
    Stages undone done { moment := m, state := s, flights := Function.update w.flights i fl } (finished ++ [i]) where
  nodup := List.nodup_append.mpr ⟨h.nodup, List.nodup_singleton i, by
    rintro j hj _ hi' rfl
    exact hi (List.mem_singleton.mp hi' ▸ hj)⟩
  done j hj := by
    by_cases hij : j = i
    · subst hij
      simpa using hfl
    · have hj : j ∈ finished := by simpa [hij] using hj
      simpa [Function.update_of_ne hij] using h.done j hj
  undone j hj := by
    obtain ⟨hj, hij⟩ : j ∉ finished ∧ j ≠ i := by simpa using hj
    simpa [Function.update_of_ne hij] using h.undone j hj

variable (hatomic : ∀ i, Atomic view (requests i).complete (undone i) (done i))

include hatomic

lemma Stages.turn (h : Stages undone done w finished) (t : Turn ι) :
    ∃ more, Stages undone done (w.turn t) (finished ++ more) ∧ (∀ i ∈ more, Moved [t] i) ∧
      view (w.turn t).state = completed requests more (view w.state) := by
  cases t with
  | pass ms => exact ⟨[], by simpa using ⟨h.nodup, h.done, h.undone⟩, by simp, rfl⟩
  | cancel family => exact ⟨[], by simpa using ⟨h.nodup, h.done, h.undone⟩, by simp, rfl⟩
  | drop i =>
    refine ⟨[], ?_, by simp, rfl⟩
    rw [List.append_nil]
    by_cases hi : i ∈ finished
    · exact h.update_of_done hi ((hatomic i).done_drop (h.done i hi)) _ _
    · exact h.update_of_undone hi ((hatomic i).undone_drop (h.undone i hi)) _ _
  | step i preferred =>
    by_cases hi : i ∈ finished
    · obtain ⟨hv, hfl⟩ := (hatomic i).done_next (h.done i hi) preferred w.moment w.state
      refine ⟨[], ?_, by simp, hv⟩
      rw [List.append_nil]
      exact h.update_of_done hi hfl _ _
    · rcases (hatomic i).undone_next (h.undone i hi) preferred w.moment w.state with ⟨hv, hfl⟩ | ⟨hv, hfl⟩
      · refine ⟨[], ?_, by simp, hv⟩
        rw [List.append_nil]
        exact h.update_of_undone hi hfl _ _
      · exact ⟨[i], h.finish hi hfl _ _, by simp [Moved], hv⟩

lemma Stages.play (h : Stages undone done w finished) (turns : List (Turn ι)) :
    ∃ more, Stages undone done (w.play turns) (finished ++ more) ∧ (∀ i ∈ more, Moved turns i) ∧
      view (w.play turns).state = completed requests more (view w.state) := by
  induction turns generalizing w finished with
  | nil => exact ⟨[], by rwa [List.append_nil], by simp, rfl⟩
  | cons t turns ih =>
    obtain ⟨more, hturn, hmoved, hv⟩ := h.turn hatomic t
    obtain ⟨rest, hplay, hrest, hv'⟩ := ih hturn
    refine ⟨more ++ rest, by rwa [List.append_assoc] at hplay, ?_, ?_⟩
    · intro i hi
      rcases List.mem_append.mp hi with hi | hi
      · exact (hmoved i hi).mono (by simp)
      · exact (hrest i hi).mono (List.subset_cons_self t turns)
    · rw [completed_append, ← hv]
      exact hv'

end Runs

section Freed

variable {v : Visit} {s : Store} {t : Transaction}

lemma answer?_add (hr : v.request = .addTransaction t) :
    v.answer? s = some (.transaction (Ledger.addTransaction (v.signal.check v.moment) t s).1) := by
  rw [v.answer?_eq, hr]
  rfl

lemma error_of_answer? {e : LedgerError} (hr : v.request = .addTransaction t)
    (h : v.answer? s = some (.transaction (.error e))) :
    e = .invalidTransaction ∨ (∃ i : Interruption, e = i.error) ∨ ∃ c, s.refusal? t = some c ∧ e = .ofStore c := by
  rw [answer?_add hr, Option.some.injEq, Answer.transaction.injEq] at h
  exact Ledger.addTransaction_error h

lemma not_isRecorded_of_overflow (hr : v.request = .addTransaction t) {user : UserId}
    (h : v.answer? s = some (.transaction (.error (.storage (.balanceOverflow user))))) : ¬ s.isRecorded t.id := by
  intro hrec
  rcases error_of_answer? hr h with he | ⟨i, he⟩ | ⟨c, hc, he⟩
  · cases he
  · cases i <;> cases he
  -- an identity that is taken is refused before the sum is looked at
  · rcases refusal?_of_recorded hrec with href | href <;> cases hc.symm.trans href <;> cases he

lemma answer?_of_free (hr : v.request = .addTransaction t) (hfree : ¬ s.isRecorded t.id) :
    v.answer? s ≠ some (.transaction (.error .transactionAlreadyExists)) := by
  intro h
  rcases error_of_answer? hr h with he | ⟨i, he⟩ | ⟨c, hc, he⟩
  · cases he
  · cases i <;> cases he
  · cases c with
    | conflict id => exact hfree (isRecorded_of_conflict hc)
    | userExists | notFound | balanceOverflow | unavailable | backend => cases he

lemma answer?_of_accepted (hr : v.request = .addTransaction t) (hun : v.IsUnfired) (hv : t.isValid)
    (href : s.refusal? t = none) : v.answer? s = some (.transaction (.ok t)) := by
  have hnone : v.signal.check v.moment = none := hun
  rw [answer?_add hr, hnone, Ledger.addTransaction_of_accepted hv href]

end Freed

end Traffic

open Traffic in
/-- Calls that overlap on one store change it by whole operations of different calls, whatever stands between them and
the store and whenever they are stopped: a call that moves alone leaves the store as it was or as its operation leaves
it. On the store itself, no operation is one of a call that ends in an error. The identity of a deposit that is refused
for the balance or the user is free for any later one. -/
theorem calls_all_or_nothing {ι σ : Type} [DecidableEq ι] {view : σ → Store} {faults : StoreError → Prop}
    {repositories : ι → Repository σ} (hr : ∀ i, (repositories i).Wraps view faults) (requests : ι → Request)
    (signals : ι → Signal) (m : Moment) {commands : List Command} {s : σ} (hs : view s = after commands)
    (turns later : List (Turn ι)) :
    (let w := (start requests (fun _ => Store.repository) signals m (after commands)).play turns
      let w' := w.play later
      (∃ calls, calls.Nodup ∧ w'.state = completed requests calls w.state ∧
        ∀ i ∈ calls, Moved later i ∧ ∀ a, w'.answer? i = some a → a.error? = none) ∧
      ∀ i, (∀ j, Moved later j → j = i) → ∀ a e, w'.answer? i = some a → a.error? = some e → w'.state = w.state) ∧
    (let w := (start requests repositories signals m s).play turns
      let w' := w.play later
      (view w.state).Consistent ∧
      (∃ calls, calls.Nodup ∧ view w'.state = completed requests calls (view w.state) ∧ ∀ i ∈ calls, Moved later i) ∧
      ∀ i, (∀ j, Moved later j → j = i) →
        view w'.state = view w.state ∨ view w'.state = (requests i).complete (view w.state)) ∧
    ∀ (visits calls : List Visit) (v : Visit) (t : Transaction), v.request = .addTransaction t →
      (∀ u ∈ submitted calls, u.id ≠ t.id) →
      let s := served visits
      let s' := (v.after s).serve calls
      ((∃ user, v.answer? s = some (.transaction (.error (.storage (.balanceOverflow user))))) ∨
        v.answer? s = some (.transaction (.error .userNotFound)) ∧ ¬ s.isRecorded t.id) →
      ¬ s'.isRecorded t.id ∧ ∀ (v' : Visit) (u : Transaction), v'.request = .addTransaction u → u.id = t.id →
        v'.answer? s' ≠ some (.transaction (.error .transactionAlreadyExists)) ∧
        ∀ a b, s'.account? u.userId = some a → a.total? = some b → (b.add? u.amount).isSome → u.isValid →
          v'.IsUnfired → v'.answer? s' = some (.transaction (.ok u)) := by
  refine ⟨?_, ?_, ?_⟩
  · choose undone done hatomic hundone hdone using fun i => exists_atomic_store (signals i) (requests i)
    have hstart : Stages undone done (start requests (fun _ => Store.repository) signals m (after commands)) [] :=
      ⟨List.nodup_nil, by simp, fun i _ => hundone i⟩
    intro w w'
    obtain ⟨finished, hw, -, -⟩ := hstart.play hatomic turns
    obtain ⟨calls, hw', hmoved, hstate⟩ := hw.play hatomic later
    have hn := (List.nodup_append.mp hw'.nodup).2.1
    have hok : ∀ i ∈ calls, ∀ a, w'.answer? i = some a → a.error? = none := by
      intro i hi a ha
      obtain ⟨o, hfl, rfl⟩ := exists_answered ha
      exact hdone i o (hfl ▸ hw'.done i (List.mem_append_right _ hi))
    refine ⟨⟨calls, hn, hstate, fun i hi => ⟨hmoved i hi, hok i hi⟩⟩, ?_⟩
    intro i halone a e ha he
    rcases completed_alone hn (fun j hj => halone j (hmoved j hj)) hstate with h | ⟨hi, -⟩
    · exact h
    · simp [hok i hi a ha] at he
  · choose undone done hatomic hundone using fun i => exists_atomic_wraps (hr i) (signals i) (requests i)
    have hstart : Stages undone done (start requests repositories signals m s) [] :=
      ⟨List.nodup_nil, by simp, fun i _ => hundone i⟩
    intro w w'
    obtain ⟨finished, hw, -, hbefore⟩ := hstart.play hatomic turns
    obtain ⟨calls, hw', hmoved, hstate⟩ := hw.play hatomic later
    have hn := (List.nodup_append.mp hw'.nodup).2.1
    refine ⟨?_, ⟨calls, hn, hstate, hmoved⟩, ?_⟩
    · change (view (Traffic.play _ turns).state).Consistent
      rw [hbefore]
      exact consistent_completed (hs ▸ consistent_after commands) _ _
    · intro i halone
      exact (completed_alone hn (fun j hj => halone j (hmoved j hj)) hstate).imp_right And.right
  · intro visits calls v t hreq hother s s' hrefused
    have hfree : ¬ s.isRecorded t.id := by
      rcases hrefused with ⟨user, h⟩ | ⟨-, h⟩
      · exact not_isRecorded_of_overflow hreq h
      · exact h
    have hafter : v.after s = s := by
      rcases hrefused with ⟨user, h⟩ | ⟨h, -⟩ <;> exact Visit.after_of_error h rfl
    have hfree' : ¬ s'.isRecorded t.id := by
      change ¬ ((v.after s).serve calls).isRecorded t.id
      rw [hafter, isRecorded_serve hother]
      exact hfree
    refine ⟨hfree', ?_⟩
    intro v' u hreq' hid
    refine ⟨answer?_of_free hreq' (hid ▸ hfree'), ?_⟩
    intro a b ha hb hadd hv hun
    exact answer?_of_accepted hreq' hun hv (refusal?_eq_none_iff.mpr ⟨a, ha, hid ▸ hfree', b, hb, hadd⟩)

open Traffic in
theorem late_deposit_all_or_nothing :
    let w := (start sentTwice (fun i => Store.repository.faulty (slowOnce i)) (fun i => ⟨i, some 3⟩) {}
      { state := {} }).play (List.replicate 5 (.step 0 .cancelled))
    let w' := w.play (List.replicate 6 (.step 1 .cancelled) ++ [.pass 3, .step 1 .cancelled])
    w'.answer? 1 = some (.transaction (.error .deadlineExceeded)) ∧ w'.state.state.transactionCount = 1 ∧
      w'.state.state = (sentTwice 1).complete w.state.state := by
  have hr : ∀ i, (Store.repository.faulty (slowOnce i)).Wraps Counted.state fun _ => True := fun i =>
    (Repository.wraps_store fun _ => True).faulty fun _ _ _ _ _ => trivial
  have hs : Counted.state { state := ({} : Store) } = after [] := rfl
  obtain ⟨-, ⟨-, -, halone⟩, -⟩ := calls_all_or_nothing hr sentTwice (fun i => ⟨i, some 3⟩) {} hs
    (List.replicate 5 (.step 0 .cancelled)) (List.replicate 6 (.step 1 .cancelled) ++ [.pass 3, .step 1 .cancelled])
  refine ⟨rfl, rfl, ?_⟩
  rcases halone 1 (by simp [Moved]) with h | h
  · exact absurd (congrArg Store.transactionCount h) (by decide)
  · exact h

end Passbook
