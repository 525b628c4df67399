import Passbook.Proofs.Traffic.AllOrNothing

/-! What users can tell of each other. Two runs are compared, one of them without the calls of the other users: the
stores agree on the account of the user and on which of its identities are taken, and this is all that its calls see. -/

namespace Passbook

namespace Work

variable {σ α β : Type} {R : σ → σ → Prop}

/-- Work that goes on in the same way from related states, and leaves them related. -/
inductive Uniform (R : σ → σ → Prop) : Work σ α → Prop
  | done {a : α} : Uniform R (.done a)
  | act {f : σ → σ} {next : σ → Work σ α} : (∀ s s', R s s' → R (f s) (f s') ∧ next s = next s') →
      (∀ s, Uniform R (next s)) → Uniform R (.act f next)
  | sleep {ms : Nat} {next : Work σ α} : Uniform R next → Uniform R (.sleep ms next)
  | hang : Uniform R .hang

namespace Uniform

lemma bind {work : Work σ α} {k : α → Work σ β} (h : Uniform R work) (hk : ∀ a, Uniform R (k a)) :
    Uniform R (work.bind k) := by
  induction h with
  | done => exact hk _
  | act hf _ ih =>
    refine .act (fun s s' hs => ?_) ih
    obtain ⟨hs', hnext⟩ := hf s s' hs
    exact ⟨hs', congrArg (·.bind k) hnext⟩
  | sleep _ ih => exact .sleep ih
  | hang => exact .hang

lemma map {work : Work σ α} (h : Uniform R work) (f : α → β) : Uniform R (work.map f) := h.bind fun _ => .done

lemma modify {f : σ → α × σ} (h : ∀ s s', R s s' → (f s).1 = (f s').1 ∧ R (f s).2 (f s').2) :
    Uniform R (Work.modify f) := by
  refine .act (fun s s' hs => ?_) fun _ => .done
  obtain ⟨hvalue, hs'⟩ := h s s' hs
  exact ⟨hs', congrArg Work.done hvalue⟩

end Uniform

end Work

namespace Flight

open Work

variable {σ β : Type} {R : σ → σ → Prop}

lemma next_uniform {fl : Flight σ β} (h : fl.Meets (Uniform R) fun _ => True) (preferred : Interruption) (m : Moment)
    {s s' : σ} (hs : R s s') : (fl.next preferred m s).1 = (fl.next preferred m s').1 ∧
      R (fl.next preferred m s).2 (fl.next preferred m s').2 ∧
        (fl.next preferred m s).1.Meets (Uniform R) fun _ => True := by
  by_cases ha : ∃ guard work, fl = active guard work
  · obtain ⟨guard, work, rfl⟩ := ha
    obtain ⟨hw, hg⟩ := h
    cases hw with
    | done => exact ⟨rfl, hs, trivial⟩
    | act hf hn =>
      obtain ⟨hs', hnext⟩ := hf s s' hs
      exact ⟨congrArg (active guard) hnext, hs', hn s, hg⟩
    | @sleep ms rest hn => cases ms <;> exact ⟨rfl, hs, hn, hg⟩
    | hang => exact ⟨rfl, hs, .hang, hg⟩
  · have hn : ∀ guard work, fl ≠ active guard work := fun guard work he => ha ⟨guard, work, he⟩
    have hstill : ∀ s, (fl.next preferred m s).2 = s ∧ (fl.next preferred m s).1.Meets (Uniform R) fun _ => True :=
      next_inactive h hn
    rw [(hstill s).1, (hstill s').1]
    refine ⟨?_, hs, (hstill s).2⟩
    cases fl with
    | ready task => cases hr : task.refusal? m <;> simp [next, hr]
    | active guard work => exact absurd rfl (hn guard work)
    | waiting guard wake rest =>
      cases hi : guard.bind (·.interruption? preferred m) with
      | some o => simp [next, hi]
      | none => by_cases hw : wake.any (· ≤ m.now) <;> simp [next, hi, hw]
    | answered o => rfl
    | dropped => rfl

end Flight

namespace Store

structure AgreeOn (user : UserId) (own : TransactionId → Prop) (s s' : Store) : Prop where
  account? : s.account? user = s'.account? user
  isRecorded id : own id → s.isRecorded id = s'.isRecorded id

namespace AgreeOn

variable {user : UserId} {own : TransactionId → Prop} {s s' s'' : Store}

lemma refl (s : Store) : s.AgreeOn user own s := ⟨rfl, fun _ _ => rfl⟩

lemma symm (h : s.AgreeOn user own s') : s'.AgreeOn user own s where
  account? := h.account?.symm
  isRecorded id hid := (h.isRecorded id hid).symm

lemma trans (h : s.AgreeOn user own s') (h' : s'.AgreeOn user own s'') : s.AgreeOn user own s'' where
  account? := h.account?.trans h'.account?
  isRecorded id hid := (h.isRecorded id hid).trans (h'.isRecorded id hid)

lemma isRegistered (h : s.AgreeOn user own s') : s.isRegistered user = s'.isRegistered user := by
  rw [Store.isRegistered, Store.isRegistered, h.account?]

lemma register (h : s.AgreeOn user own s') (other : UserId) : (s.register other).AgreeOn user own (s'.register other) where
  account? := by rw [account?_register_eq, account?_register_eq, h.account?]
  isRecorded := h.isRecorded

lemma put (h : s.AgreeOn user own s') (t : Transaction) : (s.put t).AgreeOn user own (s'.put t) where
  account? := by rw [account?_put, account?_put, h.account?]
  isRecorded id hid := by rw [isRecorded_put, isRecorded_put, h.isRecorded id hid]

lemma addUser (h : s.AgreeOn user own s') :
    (s.addUser user).1 = (s'.addUser user).1 ∧ (s.addUser user).2.AgreeOn user own (s'.addUser user).2 := by
  by_cases hreg : s.isRegistered user
  · rw [addUser_of_registered hreg, addUser_of_registered (h.isRegistered ▸ hreg)]
    exact ⟨rfl, h⟩
  · rw [addUser_of_new hreg, addUser_of_new (h.isRegistered ▸ hreg)]
    exact ⟨rfl, h.register user⟩

lemma record {t : Transaction} (h : s.AgreeOn t.userId own s') (hown : own t.id) :
    (s.record t).1 = (s'.record t).1 ∧ (s.record t).2.AgreeOn t.userId own (s'.record t).2 := by
  have href : s.refusal? t = s'.refusal? t := by rw [refusal?, refusal?, h.account?, h.isRecorded t.id hown]
  cases hr : s.refusal? t with
  | none =>
    rw [record_of_accepted hr, record_of_accepted (href ▸ hr)]
    exact ⟨rfl, h.put t⟩
  | some e =>
    rw [record_of_refused hr, record_of_refused (href ▸ hr)]
    exact ⟨rfl, h⟩

lemma find (h : s.AgreeOn user own s') : s.find user = s'.find user := by rw [Store.find, Store.find, h.account?]

lemma page (h : s.AgreeOn user own s') (p : Page) : s.page user p = s'.page user p := by
  rw [Store.page, Store.page, h.account?]

lemma history (h : s.AgreeOn user own s') : s.history user = s'.history user := by
  rw [Store.history, Store.history, h.account?]

lemma addUser_other {other : UserId} (hne : other ≠ user) (s : Store) : s.AgreeOn user own (s.addUser other).2 := by
  by_cases hreg : s.isRegistered other
  · rw [addUser_of_registered hreg]
    exact .refl s
  · rw [addUser_of_new hreg]
    exact ⟨by simp [account?_register_eq, hne], fun _ _ => rfl⟩

lemma record_other {t : Transaction} (hne : t.userId ≠ user) (hown : ¬ own t.id) (s : Store) :
    s.AgreeOn user own (s.record t).2 := by
  cases hr : s.refusal? t with
  | some e =>
    rw [record_of_refused hr]
    exact .refl s
  | none =>
    rw [record_of_accepted hr]
    refine ⟨?_, ?_⟩
    · cases ha : s.account? user with
      | none => rw [account?_put, ha, Option.map_none]
      | some a => rw [account?_put_of_ne ha hne]
    · intro id hid
      have hne : t.id ≠ id := fun he => hown (he ▸ hid)
      simp [isRecorded_put, hne]

end AgreeOn

end Store

namespace Request

open Work Store

def user : Request → UserId
  | createUser user => user
  | addTransaction t => t.userId
  | balance user => user
  | history user _ _ => user

variable {own : TransactionId → Prop}

lemma uniform_task (signal : Signal) (req : Request) (hown : ∀ t, req = .addTransaction t → own t.id) :
    Uniform (AgreeOn req.user own) (req.task Store.repository signal).work := by
  cases req with
  | createUser user =>
    rw [Traffic.work_create]
    exact (Uniform.modify fun _ _ h => h.addUser).map _
  | addTransaction t =>
    by_cases hv : t.isValid
    · rw [work_add _ signal hv]
      exact (Uniform.modify fun _ _ h => AgreeOn.record h (hown t rfl)).map _
    · simp only [task, Manager.addTransaction, if_neg hv]
      exact .done
  | balance user =>
    have hfind : Uniform (AgreeOn user own) (Store.repository.findUser user) :=
      .modify fun _ _ h => ⟨h.find, h⟩
    simp only [task, Manager.balance, Call.task, Task.under, Manager.relay, map_map]
    exact hfind.map _
  | history user page size =>
    cases hp : Page.of? page size with
    | none =>
      simp only [task, Manager.history, hp, Call.task, Task.settled]
      exact .done
    | some p =>
      have hfind : Uniform (AgreeOn user own) (Store.repository.findUser user) :=
        .modify fun _ _ h => ⟨h.find, h⟩
      have hpage : Uniform (AgreeOn user own) (Store.repository.history user p) :=
        .modify fun _ _ h => ⟨h.page p, h⟩
      have hwork : Uniform (AgreeOn user own) (Manager.historyWork Store.repository user p) := by
        apply (hfind.map _).bind
        intro x
        cases x with
        | ok => exact hpage.map _
        | error e => exact .done
      simp only [task, Manager.history, hp, Call.task, Task.under]
      exact hwork.map _

lemma agreeOn_complete {user : UserId} {req : Request} (hne : req.user ≠ user)
    (hown : ∀ t, req = .addTransaction t → ¬ own t.id) (s : Store) : s.AgreeOn user own (req.complete s) := by
  cases req with
  | createUser other => exact .addUser_other hne s
  | addTransaction t => exact .record_other hne (hown t rfl) s
  | balance other => exact .refl s
  | history other page size => exact .refl s

end Request

def Turn.concerns {ι : Type} (requests : ι → Request) (user : UserId) : Turn ι → Bool
  | step i _ => (requests i).user == user
  | drop i => (requests i).user == user
  | pass _ => true
  | cancel _ => true

namespace Traffic

open Work Store

variable {ι : Type} {requests : ι → Request} {user : UserId} {own : TransactionId → Prop}
  {w alone : Traffic ι Store Answer}

structure Alike (requests : ι → Request) (user : UserId) (own : TransactionId → Prop)
    (w alone : Traffic ι Store Answer) : Prop where
  moment : w.moment = alone.moment
  state : w.state.AgreeOn user own alone.state
  flights i : (requests i).user = user → w.flights i = alone.flights i
  uniform i : (requests i).user = user → (w.flights i).Meets (Uniform (AgreeOn user own)) fun _ => True
  others i : (requests i).user ≠ user → (w.flights i).Meets (Respects id (AgreeOn user own)) fun _ => True

lemma Alike.start (signals : ι → Signal) (m : Moment) (s : Store)
    (hown : ∀ i t, requests i = .addTransaction t → (t.userId = user ↔ own t.id)) :
    Alike requests user own (start requests (fun _ => Store.repository) signals m s)
      (start requests (fun _ => Store.repository) signals m s) where
  moment := rfl
  state := .refl s
  flights _ _ := rfl
  uniform i hi := by
    subst hi
    refine ⟨(requests i).uniform_task (signals i) ?_, fun _ _ _ _ => trivial⟩
    intro t ht
    exact (hown i t ht).mp (by rw [ht]; rfl)
  others i hi := by
    have hkeeps : ∀ s : Store, s.AgreeOn user own ((requests i).complete s) := by
      apply Request.agreeOn_complete hi
      intro t ht hmem
      exact hi (ht ▸ (hown i t ht).mpr hmem)
    exact ⟨.of_once AgreeOn.refl hkeeps (once_complete (Repository.wraps_store fun _ => True) _ _),
      fun _ _ _ _ => trivial⟩

variable [DecidableEq ι]

lemma Alike.other (h : Alike requests user own w alone) {i : ι} (hi : (requests i).user ≠ user) {fl : Flight Store Answer}
    {s : Store} (hs : w.state.AgreeOn user own s) (hfl : fl.Meets (Respects id (AgreeOn user own)) fun _ => True) :
    Alike requests user own { w with state := s, flights := Function.update w.flights i fl } alone where
  moment := h.moment
  state := hs.symm.trans h.state
  flights := by
    rw [Function.forall_update_iff w.flights fun j fl => (requests j).user = user → fl = alone.flights j]
    exact ⟨fun hj => absurd hj hi, fun j _ => h.flights j⟩
  uniform := by
    rw [Function.forall_update_iff w.flights fun j fl => (requests j).user = user → fl.Meets _ _]
    exact ⟨fun hj => absurd hj hi, fun j _ => h.uniform j⟩
  others := by
    rw [Function.forall_update_iff w.flights fun j fl => (requests j).user ≠ user → fl.Meets _ _]
    exact ⟨fun _ => hfl, fun j _ => h.others j⟩

lemma Alike.both (h : Alike requests user own w alone) {i : ι} (hi : (requests i).user = user) {fl : Flight Store Answer}
    {s s' : Store} (hs : s.AgreeOn user own s') (hfl : fl.Meets (Uniform (AgreeOn user own)) fun _ => True) :
    Alike requests user own { w with state := s, flights := Function.update w.flights i fl }
      { alone with state := s', flights := Function.update alone.flights i fl } where
  moment := h.moment
  state := hs
  flights := by
    rw [Function.forall_update_iff w.flights fun j fl' =>
      (requests j).user = user → fl' = Function.update alone.flights i fl j]
    refine ⟨fun _ => by simp, ?_⟩
    intro j hji hj
    rw [Function.update_of_ne hji]
    exact h.flights j hj
  uniform := by
    rw [Function.forall_update_iff w.flights fun j fl => (requests j).user = user → fl.Meets _ _]
    exact ⟨fun _ => hfl, fun j _ => h.uniform j⟩
  others := by
    rw [Function.forall_update_iff w.flights fun j fl => (requests j).user ≠ user → fl.Meets _ _]
    exact ⟨fun hj => absurd hi hj, fun j _ => h.others j⟩

lemma Alike.turn (h : Alike requests user own w alone) (t : Turn ι) : Alike requests user own (w.turn t)
    (if t.concerns requests user then alone.turn t else alone) := by
  cases t with
  | pass ms => exact ⟨by simp [Turn.concerns, Traffic.turn, h.moment], h.state, h.flights, h.uniform, h.others⟩
  | cancel family => exact ⟨by simp [Turn.concerns, Traffic.turn, h.moment], h.state, h.flights, h.uniform, h.others⟩
  | step i preferred =>
    by_cases hi : (requests i).user = user
    · have hm := h.uniform i hi
      rw [h.flights i hi] at hm
      obtain ⟨hfl, hs, hm⟩ := Flight.next_uniform hm preferred alone.moment h.state
      rw [if_pos (by simpa [Turn.concerns] using hi)]
      simpa only [Traffic.turn, h.flights i hi, h.moment, ← hfl] using h.both hi hs hm
    · obtain ⟨hs, hm⟩ := Flight.next_respects AgreeOn.refl (h.others i hi) w.state
      rw [if_neg (by simpa [Turn.concerns] using hi)]
      exact h.other hi hs hm
  | drop i =>
    by_cases hi : (requests i).user = user
    · rw [if_pos (by simpa [Turn.concerns] using hi)]
      simpa [Traffic.turn, h.flights i hi] using h.both hi h.state (h.uniform i hi).drop
    · rw [if_neg (by simpa [Turn.concerns] using hi)]
      exact h.other hi (.refl _) (h.others i hi).drop

lemma Alike.play (h : Alike requests user own w alone) (turns : List (Turn ι)) : Alike requests user own
    (w.play turns) (alone.play (turns.filter (·.concerns requests user))) := by
  induction turns generalizing w alone with
  | nil => exact h
  | cons t turns ih =>
    have hplay := ih (h.turn t)
    by_cases ht : t.concerns requests user
    · rw [List.filter_cons_of_pos ht]
      rwa [if_pos ht] at hplay
    · rw [List.filter_cons_of_neg ht]
      rwa [if_neg ht] at hplay

end Traffic

def Request.submits {ι : Type} (requests : ι → Request) (user : UserId) (id : TransactionId) : Prop :=
  ∃ i t, requests i = .addTransaction t ∧ t.userId = user ∧ t.id = id

open Traffic in
/-- What becomes of the calls of a user does not depend on the calls of others, if the identities that are submitted for
it are not submitted for others: without those calls each call of the user is answered as it was, and the user has the
account that it had. -/
theorem users_do_not_interfere {ι : Type} [DecidableEq ι] (requests : ι → Request) (signals : ι → Signal) (m : Moment)
    (s : Store) (user : UserId)
    (hids : ∀ i j t r, requests i = .addTransaction t → requests j = .addTransaction r → t.userId = user →
      r.userId ≠ user → t.id ≠ r.id) (turns : List (Turn ι)) :
    let w := (start requests (fun _ => Store.repository) signals m s).play turns
    let alone := (start requests (fun _ => Store.repository) signals m s).play
      (turns.filter (·.concerns requests user))
    (∀ i, (requests i).user = user → w.answer? i = alone.answer? i) ∧
    w.state.history user = alone.state.history user ∧ w.state.find user = alone.state.find user := by
  intro w alone
  have hown : ∀ i t, requests i = .addTransaction t → (t.userId = user ↔ Request.submits requests user t.id) := by
    intro j r hr
    constructor
    · intro hu
      exact ⟨j, r, hr, hu, rfl⟩
    · rintro ⟨i, t, ht, hu, hid⟩
      by_contra hne
      exact hids i j t r ht hr hu hne hid
  have halike : Alike requests user (Request.submits requests user) w alone := (Alike.start signals m s hown).play turns
  refine ⟨?_, halike.state.history, halike.state.find⟩
  intro i hi
  rw [answer?, answer?, halike.flights i hi]

def neighbour : UserId := ⟨(Transaction.ofNumbers 255 0 1 0).id.uuid⟩

def neighbours : Fin 6 → Request
  | 0 => .createUser default
  | 1 => .createUser neighbour
  | 2 => .addTransaction (.ofNumbers 1 20 25 1)
  | 3 => .addTransaction { Transaction.ofNumbers 2 10 7 0 with userId := neighbour }
  | 4 => .addTransaction (.ofNumbers 1 20 25 1)
  | 5 => .history default 1 10

def inPairs : List (Turn (Fin 6)) :=
  ([[0, 1], [2, 3], [4, 5]].flatMap fun calls => (List.replicate 5 calls).flatten).map fun i => .step i .cancelled

open Traffic in
theorem neighbours_do_not_interfere :
    let start := start neighbours (fun _ => Store.repository) (fun i => ⟨i, none⟩) {} {}
    let w := start.play inPairs
    let alone := start.play (inPairs.filter (·.concerns neighbours default))
    w.state.transactionCount = 2 ∧ alone.state.transactionCount = 1 ∧
    w.answer? 4 = some (.transaction (.error .transactionAlreadyExists)) ∧ w.answer? 4 = alone.answer? 4 ∧
    w.answer? 5 = some (.history (.ok [.ofNumbers 1 20 25 1])) ∧ w.answer? 5 = alone.answer? 5 := by
  have hadds : ∀ i t, neighbours i = .addTransaction t → t = .ofNumbers 1 20 25 1 ∨ t.userId = neighbour ∧
      t.id = (Transaction.ofNumbers 2 10 7 0).id := by
    intro i t h
    unfold neighbours at h
    split at h <;> cases h
    · exact .inl rfl
    · exact .inr ⟨rfl, rfl⟩
    · exact .inl rfl
  have hids : ∀ i j t r, neighbours i = .addTransaction t → neighbours j = .addTransaction r → t.userId = default →
      r.userId ≠ default → t.id ≠ r.id := by
    intro i j t r hi hj hu hne
    rcases hadds i t hi with rfl | ⟨hother, -⟩
    · rcases hadds j r hj with rfl | ⟨-, hid⟩
      · exact absurd rfl hne
      · rw [hid]
        decide
    · rw [hother] at hu
      exact absurd hu (by decide)
  obtain ⟨hanswers, -, -⟩ := users_do_not_interfere neighbours (fun i => ⟨i, none⟩) {} {} default hids inPairs
  exact ⟨rfl, rfl, rfl, hanswers 4 rfl, rfl, hanswers 5 rfl⟩

end Passbook
