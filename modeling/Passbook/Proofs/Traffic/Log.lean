import Mathlib.Data.Set.Card
import Passbook.Proofs.Manager.Relay
import Passbook.Proofs.Traffic.Isolation

/-! What calls of the ledger leave in its log. A call logs when it is answered, and at most one event. So the warnings of
a run are as many as the calls that a failure of the store or their signal has ended. -/

namespace Passbook

open Work

namespace Answer

def IsFailure (a : Answer) : Prop :=
  a.error? = some .cancelled ∨ a.error? = some .deadlineExceeded ∨ ∃ cause, a.error? = some (.storage cause)

end Answer

namespace Request

def isQuery : Request → Bool
  | balance _ | history _ _ _ => true
  | createUser _ | addTransaction _ => false

/-- The call was wrong in itself, or a query that succeeded. -/
def IsUnlogged (req : Request) (a : Answer) : Prop :=
  (∃ e, req.rejection? = some e ∧ a = req.failure e) ∨ req.isQuery ∧ a.error? = none

def IsDuplicate (req : Request) (t : Transaction) (a : Answer) : Prop :=
  req = .addTransaction t ∧ a.error? = some .transactionAlreadyExists

end Request

structure Event.Tells (e : Event) (req : Request) (a : Answer) : Prop where
  severity : e.severity = .warn ↔ a.IsFailure
  subject : ("user_id", req.user.uuid.text) ∈ e.fields ∨
    ∃ t, req.IsDuplicate t a ∧ ("transaction_id", t.id.uuid.text) ∈ e.fields
  error : ∀ err, a.error? = some err → ("error", err.message) ∈ e.fields ∨ ∃ t, req.IsDuplicate t a

def Request.Logs (req : Request) (o : Outcome Answer) : Prop :=
  req.IsUnlogged o.answer ∧ o.events = [] ∨
    ¬ req.IsUnlogged o.answer ∧ ∃ e, o.events = [e] ∧ e.Tells req o.answer

section Calls

variable {req : Request} {a : Answer}

lemma Answer.isFailure_iff {e : LedgerError} (h : a.error? = some e) : a.IsFailure ↔ e.isFailure := by
  cases e <;> simp [Answer.IsFailure, h, LedgerError.isFailure]

lemma Request.not_isFailure_of_rejection {e : LedgerError} (h : req.rejection? = some e) : ¬ e.isFailure := by
  cases req with
  | createUser | balance => cases h
  | addTransaction t =>
    obtain ⟨-, rfl⟩ : ¬ 0 < t.amount.value ∧ .invalidTransaction = e := by simpa [rejection?] using h
    simp [LedgerError.isFailure]
  | history user number size =>
    obtain ⟨-, rfl⟩ : (number = 0 ∨ size = 0) ∧ .invalidPagination = e := by simpa [rejection?] using h
    simp [LedgerError.isFailure]

lemma Request.IsUnlogged.not_isFailure (h : req.IsUnlogged a) : ¬ a.IsFailure := by
  rcases h with ⟨e, hreq, rfl⟩ | ⟨-, hnone⟩
  · have he : (req.failure e).error? = some e := by cases req <;> rfl
    rw [Answer.isFailure_iff he]
    exact not_isFailure_of_rejection hreq
  · simp [Answer.IsFailure, hnone]

lemma Request.logs_one (hreq : req.rejection? = none) (ha : req.isQuery → a.error? ≠ none) {e : Event}
    (he : e.Tells req a) : req.Logs ⟨[e], a⟩ := by
  refine .inr ⟨?_, e, rfl, he⟩
  rintro (⟨err, hrejection, -⟩ | ⟨hquery, hnone⟩)
  · rw [hreq] at hrejection
    cases hrejection
  · exact ha hquery hnone

lemma Event.tells_failed (operation : Operation) {e : LedgerError} (h : a.error? = some e) :
    (Event.operationFailed operation req.user e).Tells req a where
  severity := by
    rw [Answer.isFailure_iff h, Event.severity]
    cases e.isFailure <;> simp
  subject := .inl (by simp [Event.fields])
  error err herr := by
    rw [h] at herr
    cases herr
    exact .inl (by simp [Event.fields])

lemma Request.logs_failed (hreq : req.rejection? = none) (operation : Operation) {e : LedgerError}
    (h : a.error? = some e) : req.Logs ⟨[.operationFailed operation req.user e], a⟩ :=
  logs_one hreq (by simp [h]) (Event.tells_failed operation h)

lemma Request.logs_done (hreq : req.rejection? = none) (hquery : ¬ req.isQuery) {e : Event} (h : a.error? = none)
    (hseverity : e.severity = .debug) (huser : ("user_id", req.user.uuid.text) ∈ e.fields) : req.Logs ⟨[e], a⟩ := by
  apply logs_one hreq fun hq => absurd hq hquery
  refine ⟨?_, .inl huser, ?_⟩
  · simp [hseverity, Answer.IsFailure, h]
  · intro err herr
    rw [h] at herr
    cases herr

lemma Request.logs_nothing (hquery : req.isQuery) (h : a.error? = none) : req.Logs ⟨[], a⟩ := .inl ⟨.inr ⟨hquery, h⟩, rfl⟩

namespace Request

lemma logs_createUser (user : UserId) (x : Except LedgerError User) :
    (createUser user).Logs ⟨Manager.reportCreated user x, .user x⟩ := by
  cases x with
  | error e => exact logs_failed rfl .createUser rfl
  | ok u => exact logs_done rfl (by simp [isQuery]) rfl rfl (by simp [Event.fields, Request.user])

lemma logs_addTransaction {t : Transaction} (hreq : (addTransaction t).rejection? = none)
    (x : Except LedgerError Transaction) : (addTransaction t).Logs ⟨Manager.reportAdded t x, .transaction x⟩ := by
  cases x with
  | ok u => exact logs_done hreq (by simp [isQuery]) rfl rfl (by simp [Event.fields, Request.user])
  | error e =>
    cases e with
    | transactionAlreadyExists =>
      have hduplicate : (addTransaction t).IsDuplicate t (.transaction (.error .transactionAlreadyExists)) := ⟨rfl, rfl⟩
      apply logs_one hreq (by simp [isQuery])
      refine ⟨?_, .inr ⟨t, hduplicate, by simp [Event.fields]⟩, fun _ _ => .inr ⟨t, hduplicate⟩⟩
      simp [Event.severity, Answer.IsFailure, Answer.error?]
    | invalidTransaction | userNotFound | userAlreadyExists | invalidPagination | cancelled | deadlineExceeded
    | storage => exact logs_failed hreq .addTransaction rfl

lemma logs_balance (user : UserId) (x : Except LedgerError Amount) :
    (balance user).Logs ⟨Manager.reportError .userBalance user x, .balance x⟩ := by
  cases x with
  | ok b => exact logs_nothing rfl rfl
  | error e => exact logs_failed rfl .userBalance rfl

lemma logs_history {user : UserId} {number size : Nat} (hreq : (history user number size).rejection? = none)
    (x : Except LedgerError (List Transaction)) :
    (history user number size).Logs ⟨Manager.reportError .userHistory user x, .history x⟩ := by
  cases x with
  | ok ts => exact logs_nothing rfl rfl
  | error e => exact logs_failed hreq .userHistory rfl

lemma always_logs {σ : Type} (req : Request) (r : Repository σ) (signal : Signal) :
    (req.task r signal).Always req.Logs := by
  cases hreq : req.rejection? with
  | some e =>
    rw [task_of_rejection hreq]
    exact Task.always_settled (.inl ⟨.inl ⟨e, hreq, rfl⟩, rfl⟩)
  | none =>
    cases req with
    | createUser user => exact Task.always_under signal _ fun _ x => logs_createUser user x
    | addTransaction t =>
      rw [task, Manager.addTransaction, if_pos (isValid_of_unrejected hreq)]
      exact Task.always_under signal _ fun _ x => logs_addTransaction hreq x
    | balance user => exact Task.always_under signal _ fun _ x => logs_balance user x
    | history user number size =>
      obtain ⟨p, -, -, hp⟩ := exists_page_of_unrejected hreq
      rw [task, Manager.history, hp]
      exact Task.always_under signal _ fun _ x => logs_history hreq x

end Request

end Calls

lemma Work.Shows.quiet {σ α : Type} {post : α → Prop} {x : Unit} {work : Work σ α}
    (h : work.Shows (fun _ => ()) (fun _ => True) (fun _ => post) x) : work.Quiet (fun _ => ()) post := by
  induction h with
  | done ha => exact .done ha
  | act _ ih => exact .act (fun _ => rfl) fun s => ih s rfl
  | sleep _ _ ih => exact .sleep ih
  | hang => exact .hang

lemma Task.Always.meets {σ β : Type} {t : Task σ β} {post : Outcome β → Prop} (h : t.Always post) :
    (Flight.ready t).Meets (Quiet (fun _ => ()) post) post := ⟨h.work.quiet, h.guard⟩

namespace Traffic

variable {ι σ β : Type} {w : Traffic ι σ β}

def outcome? (w : Traffic ι σ β) (i : ι) : Option (Outcome β) := (w.flights i).outcome?

lemma outcome?_eq_some {i : ι} {o : Outcome β} : w.outcome? i = some o ↔ w.flights i = .answered o := by
  cases hfl : w.flights i <;> simp [outcome?, hfl, Flight.outcome?]

lemma answer?_eq_map (w : Traffic ι σ β) (i : ι) : w.answer? i = (w.outcome? i).map Outcome.answer := rfl

variable [DecidableEq ι]

/-- What is logged at a turn, with the call that it is about: the events of a call that is answered then. -/
def emits (w : Traffic ι σ β) (t : Turn ι) : List (ι × Event) :=
  match t with
  | .step i _ =>
    if (w.outcome? i).isSome then [] else (((w.turn t).outcome? i).elim [] Outcome.events).map (i, ·)
  | .pass _ | .cancel _ | .drop _ => []

def log (w : Traffic ι σ β) : List (Turn ι) → List (ι × Event)
  | [] => []
  | t :: turns => w.emits t ++ (w.turn t).log turns

lemma outcome?_turn {i : ι} {o : Outcome β} (h : w.outcome? i = some o) (t : Turn ι) :
    (w.turn t).outcome? i = some o := by
  rw [outcome?_eq_some] at h ⊢
  rcases flights_turn w t i with hfl | ⟨preferred, -, hfl⟩ | hfl <;> rw [hfl, h]
  · rfl
  · rfl

lemma outcome?_play {i : ι} {o : Outcome β} (h : w.outcome? i = some o) (turns : List (Turn ι)) :
    (w.play turns).outcome? i = some o := by
  induction turns generalizing w with
  | nil => exact h
  | cons t turns ih => exact ih (outcome?_turn h t)

lemma outcome?_drop (i j : ι) : (w.turn (.drop i)).outcome? j = w.outcome? j := by
  by_cases hji : j = i
  · subst hji
    cases hfl : w.flights j <;> simp [outcome?, turn, hfl, Flight.drop, Flight.outcome?]
  · simp [outcome?, turn, Function.update_of_ne hji]

lemma outcome?_step_of_ne {i j : ι} (hji : j ≠ i) (preferred : Interruption) :
    (w.turn (.step i preferred)).outcome? j = w.outcome? j := by
  simp [outcome?, turn, Function.update_of_ne hji]

lemma turn_cases (w : Traffic ι σ β) (t : Turn ι) :
    (w.emits t = [] ∧ ∀ j, (w.turn t).outcome? j = w.outcome? j) ∨
    ∃ i o, w.outcome? i = none ∧ (w.turn t).outcome? i = some o ∧ w.emits t = o.events.map (i, ·) ∧
      ∀ j ≠ i, (w.turn t).outcome? j = w.outcome? j := by
  cases t with
  | pass ms => exact .inl ⟨rfl, fun _ => rfl⟩
  | cancel family => exact .inl ⟨rfl, fun _ => rfl⟩
  | drop i => exact .inl ⟨rfl, outcome?_drop i⟩
  | step i preferred =>
    have hothers : ∀ j ≠ i, (w.turn (.step i preferred)).outcome? j = w.outcome? j :=
      fun j hji => outcome?_step_of_ne hji preferred
    have hsame : (w.turn (.step i preferred)).outcome? i = w.outcome? i →
        ∀ j, (w.turn (.step i preferred)).outcome? j = w.outcome? j := by
      intro hi j
      by_cases hji : j = i
      · exact hji ▸ hi
      · exact hothers j hji
    cases hbefore : w.outcome? i with
    | some o => exact .inl ⟨by simp [emits, hbefore], hsame (by rw [outcome?_turn hbefore, hbefore])⟩
    | none =>
      cases hafter : (w.turn (.step i preferred)).outcome? i with
      | none => exact .inl ⟨by simp [emits, hbefore, hafter], hsame (by rw [hafter, hbefore])⟩
      | some o => exact .inr ⟨i, o, hbefore, hafter, by simp [emits, hbefore, hafter], hothers⟩

end Traffic

def Event.about {ι : Type} [DecidableEq ι] (i : ι) (log : List (ι × Event)) : List Event :=
  log.filterMap fun x => if x.1 = i then some x.2 else none

namespace Event

variable {ι : Type} [DecidableEq ι] {i j : ι}

lemma about_append (log log' : List (ι × Event)) : about i (log ++ log') = about i log ++ about i log' :=
  List.filterMap_append

lemma about_self (es : List Event) : about i (es.map (i, ·)) = es := by
  simp [about, List.filterMap_map]

lemma about_of_ne (hji : j ≠ i) (es : List Event) : about i (es.map (j, ·)) = [] := by
  simp [about, hji]

end Event

namespace Traffic

open Event

section Trail

variable {ι σ β : Type} [DecidableEq ι]

lemma about_log (w : Traffic ι σ β) (i : ι) (turns : List (Turn ι)) : about i (w.log turns) =
    if (w.outcome? i).isSome then [] else ((w.play turns).outcome? i).elim [] Outcome.events := by
  -- by the outcomes at the ends of the first turn: an outcome stays, so its events are logged when it comes
  induction turns generalizing w with
  | nil => cases h : w.outcome? i <;> simp [log, about, play, h]
  | cons t turns ih =>
    rw [log, about_append, ih]
    change _ = if (w.outcome? i).isSome then [] else (((w.turn t).play turns).outcome? i).elim [] Outcome.events
    rcases turn_cases w t with ⟨hemits, hsame⟩ | ⟨k, o, hbefore, hafter, hemits, hothers⟩
    · rw [hemits, hsame]
      rfl
    · rw [hemits]
      by_cases hki : k = i
      · subst hki
        rw [about_self, hbefore, hafter, outcome?_play hafter]
        simp
      · rw [about_of_ne hki, hothers i (Ne.symm hki)]
        rfl

end Trail

section Warnings

variable {ι σ : Type} {requests : ι → Request} {w : Traffic ι σ Answer}

def failed (w : Traffic ι σ Answer) : Set ι := {i | ∃ a, w.answer? i = some a ∧ a.IsFailure}

def warnings (log : List (ι × Event)) : Nat := log.countP fun x => x.2.severity = .warn

lemma mem_failed_iff {i : ι} : i ∈ w.failed ↔ ∃ o, w.outcome? i = some o ∧ o.answer.IsFailure := by
  simp [failed, answer?_eq_map]

lemma warnings_of_logs {req : Request} {o : Outcome Answer} (h : req.Logs o) (i : ι) :
    warnings (o.events.map (i, ·)) = 1 ∧ o.answer.IsFailure ∨
      warnings (o.events.map (i, ·)) = 0 ∧ ¬ o.answer.IsFailure := by
  rcases h with ⟨hunlogged, hevents⟩ | ⟨-, e, hevents, htells⟩ <;> rw [hevents]
  · exact .inr ⟨rfl, hunlogged.not_isFailure⟩
  · by_cases hwarn : e.severity = .warn
    · exact .inl ⟨by simp [warnings, hwarn], htells.severity.mp hwarn⟩
    · exact .inr ⟨by simp [warnings, hwarn], htells.severity.not.mp hwarn⟩

variable [DecidableEq ι]

lemma warnings_turn {t : Turn ι} (hlogs : ∀ i o, (w.turn t).outcome? i = some o → (requests i).Logs o)
    (hfinite : w.failed.Finite) :
    (w.turn t).failed.Finite ∧ (w.turn t).failed.ncard = w.failed.ncard + warnings (w.emits t) := by
  rcases turn_cases w t with ⟨hemits, hsame⟩ | ⟨i, o, hbefore, hafter, hemits, hothers⟩
  · have hfailed : (w.turn t).failed = w.failed := by
      ext j
      rw [mem_failed_iff, mem_failed_iff, hsame]
    rw [hfailed, hemits]
    exact ⟨hfinite, rfl⟩
  · have hnew : i ∉ w.failed := by simp [mem_failed_iff, hbefore]
    have hi : i ∈ (w.turn t).failed ↔ o.answer.IsFailure := by simp [mem_failed_iff, hafter]
    have hj : ∀ j ≠ i, j ∈ (w.turn t).failed ↔ j ∈ w.failed := by
      intro j hji
      rw [mem_failed_iff, mem_failed_iff, hothers j hji]
    rw [hemits]
    -- one more call is over, and it is among the failed ones just when its event is a warning
    rcases warnings_of_logs (hlogs i o hafter) i with ⟨hcount, hfailure⟩ | ⟨hcount, hfailure⟩
    · have hfailed : (w.turn t).failed = insert i w.failed := by
        ext j
        by_cases hji : j = i
        · simp [hji, hi, hfailure]
        · simp [hji, hj j hji]
      rw [hfailed, hcount, Set.ncard_insert_of_notMem hnew hfinite]
      exact ⟨hfinite.insert i, rfl⟩
    · have hfailed : (w.turn t).failed = w.failed := by
        ext j
        by_cases hji : j = i
        · simp [hji, hi, hfailure, hnew]
        · exact hj j hji
      rw [hfailed, hcount]
      exact ⟨hfinite, rfl⟩

def Logging (requests : ι → Request) (w : Traffic ι σ Answer) : Prop :=
  ∀ i, (w.flights i).Meets (Quiet (fun _ => ()) (requests i).Logs) (requests i).Logs

omit [DecidableEq ι] in
lemma Logging.logs (h : Logging requests w) {i : ι} {o : Outcome Answer} (ho : w.outcome? i = some o) :
    (requests i).Logs o := by
  have hmeets := h i
  rwa [outcome?_eq_some.mp ho] at hmeets

lemma warnings_play (h : Logging requests w) (hfinite : w.failed.Finite) (turns : List (Turn ι)) :
    (w.play turns).failed.Finite ∧ (w.play turns).failed.ncard = w.failed.ncard + warnings (w.log turns) := by
  induction turns generalizing w with
  | nil => exact ⟨hfinite, rfl⟩
  | cons t turns ih =>
    have hturn : Logging requests (w.turn t) := fun i => quiet_play (h i) [t]
    obtain ⟨hfinite', hcount⟩ := warnings_turn (fun i o => hturn.logs) hfinite
    obtain ⟨hfinal, htotal⟩ := ih hturn hfinite'
    refine ⟨hfinal, ?_⟩
    calc
      _ = (w.turn t).failed.ncard + warnings ((w.turn t).log turns) := htotal
      _ = w.failed.ncard + (warnings (w.emits t) + warnings ((w.turn t).log turns)) := by rw [hcount, Nat.add_assoc]
      _ = w.failed.ncard + warnings (w.log (t :: turns)) := by rw [log, warnings, warnings, warnings, List.countP_append]

end Warnings

open Traffic in
/-- The log after any run of calls, each over a repository of its own and under a signal of its own. A call that has not
been answered has logged nothing. One that was wrong in itself, or is a query that succeeded, has logged nothing either,
and every other call has logged one event, which tells whose it is and how it ended. The warnings are as many as the
calls that a failure of the store or their signal has ended. -/
theorem warnings_eq_failures {ι σ : Type} [DecidableEq ι] (requests : ι → Request) (repositories : ι → Repository σ)
    (signals : ι → Signal) (m : Moment) (s : σ) (turns : List (Turn ι)) :
    let run := start requests repositories signals m s
    (∀ i, match (run.play turns).answer? i with
      | none => about i (run.log turns) = []
      | some a => (requests i).Logs ⟨about i (run.log turns), a⟩) ∧
    (run.play turns).failed.Finite ∧ warnings (run.log turns) = (run.play turns).failed.ncard := by
  intro run
  have hstart : Logging requests run := fun i => ((requests i).always_logs (repositories i) (signals i)).meets
  have hnone : ∀ i, run.outcome? i = none := fun _ => rfl
  refine ⟨?_, ?_⟩
  · intro i
    rw [answer?_eq_map, about_log, hnone]
    cases ho : (run.play turns).outcome? i with
    | none => rfl
    | some o => exact Logging.logs (fun i => quiet_play (hstart i) turns) ho
  · have hfailed : run.failed = ∅ := by
      ext i
      simp [mem_failed_iff, hnone]
    obtain ⟨hfinite, hcount⟩ := warnings_play hstart (hfailed ▸ Set.finite_empty) turns
    refine ⟨hfinite, ?_⟩
    rw [hcount, hfailed, Set.ncard_empty, Nat.zero_add]

/-- The balance of a user who is not there yet, whose creation is cancelled before it begins. -/
example :
    let requests : Bool → Request | true => .createUser default | false => .balance default
    let run := start requests (fun _ => Store.repository) (fun i => ⟨i.toNat, none⟩) {} {}
    run.log ([.step false .cancelled, .cancel 1, .step true .cancelled] ++
      List.replicate 3 (.step false .cancelled)) =
      [(true, .operationFailed .createUser default .cancelled),
        (false, .operationFailed .userBalance default .userNotFound)] := rfl

end Traffic

end Passbook
