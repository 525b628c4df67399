import Passbook.Proofs.Manager.Overflow
import Passbook.Proofs.Manager.Relay
import Passbook.Proofs.Service.Refusals

/-! The stages of a deposit request. Each of them can fail on its own, whatever the others do, and the response is that
of the first one that fails. The repository is asked behind the sixth stage, and only there. -/

namespace Passbook

namespace Exchange

def Names (id : List UInt8) (user : UserId) : Prop :=
  ∃ text, Utf8.decode? (Http.decodePercent id) = some text ∧ Uuid.read text.toList = .ok user.uuid

structure Says (x : Exchange) (body : AddTransactionRequest) : Prop where
  json : x.request.contentType.any Http.MediaType.isJson
  length_le : x.request.body.length ≤ Input.maxBody
  decoded : Json.decodeAll AddTransactionRequest.decode x.request.body = .ok body

/-- The deposit that the request asks for. What it leaves out is made up for it. -/
structure Means (x : Exchange) (id : List UInt8) (t : Transaction) : Prop where
  user : Names id t.userId
  body : ∃ body, x.Says body ∧ body.amount.amount? = some t.amount ∧
    t.idempotencyKey = body.idempotencyKey.getD x.minted.key ∧ t.createdAt = body.createdAt.getD x.minted.now
  derived : t.id = .derive t.idempotencyKey t.userId t.amount

inductive Stage where
  | path
  | body
  | user
  | amount
  | sign
  | deadline
  | account
  | identity
  | sum
  deriving DecidableEq

namespace Stage

def place : Stage → Nat
  | path => 0
  | body => 1
  | user => 2
  | amount => 3
  | sign => 4
  | deadline => 5
  | account => 6
  | identity => 7
  | sum => 8

def status : Stage → Nat
  | path | body | user | amount | sign => 400
  | deadline => 504
  | account => 404
  | identity => 409
  | sum => 500

def code : Stage → String
  | path => "INVALID_USER_ID"
  | body => "INVALID_BODY"
  | user => "USER_MISMATCH"
  | amount => "INVALID_AMOUNT"
  | sign => "INVALID_TRANSACTION"
  | deadline => "DEADLINE_EXCEEDED"
  | account => "USER_NOT_FOUND"
  | identity => "TRANSACTION_ALREADY_EXISTS"
  | sum => "STORAGE_FAILURE"

/-- What is wrong at each stage, whether or not the request gets there. -/
def Fails (timeout : Option Nat) (s : Store) (x : Exchange) (id : List UInt8) : Stage → Prop
  | path => ∀ user, ¬ Names id user
  | body => ∀ body, ¬ x.Says body
  | user => ∃ user body other, Names id user ∧ x.Says body ∧ body.userId = some other ∧ other ≠ user
  | amount => ∃ body, x.Says body ∧ body.amount.amount? = none
  | sign => ∃ t, x.Means id t ∧ t.amount.value ≤ 0
  | deadline => ∃ ms ∈ timeout, x.arrival + ms ≤ x.look
  | account => ∃ user, Names id user ∧ ¬ s.isRegistered user
  | identity => ∃ t, x.Means id t ∧ ∃ r ∈ s.index, r.id = t.id
  | sum => ∃ t, x.Means id t ∧ Amount.sum? (s.amounts t.userId ++ [t.amount]) = none

def Refuses (id : List UInt8) (r : Refusal) : Stage → Prop
  | path => ∃ reason, r = .userId reason
  | body => ∃ reason, r = .body reason
  | user => r = .userMismatch
  | amount => ∃ sent, r = .amount sent
  | sign => r = .ledger .invalidTransaction
  | deadline => r = .ledger .deadlineExceeded
  | account => r = .ledger .userNotFound
  | identity => r = .ledger .transactionAlreadyExists
  | sum => ∃ user, Names id user ∧ r = .ledger (.storage (.balanceOverflow user))

lemma exists_first {timeout : Option Nat} {s : Store} {x : Exchange} {id : List UInt8} {stage : Stage}
    (h : stage.Fails timeout s x id) : ∃ first : Stage, first.Fails timeout s x id ∧ first.place ≤ stage.place ∧
      ∀ earlier : Stage, earlier.place < first.place → ¬ earlier.Fails timeout s x id := by
  obtain ⟨first, hfirst, hmin⟩ :=
    (measure place).wf.has_min {stage : Stage | stage.Fails timeout s x id} ⟨stage, h⟩
  exact ⟨first, hfirst, not_lt.mp (hmin stage h), fun earlier hearlier hfails => hmin earlier hfails hearlier⟩

lemma Refuses.response_eq {stage : Stage} {id : List UInt8} {r : Refusal} (h : stage.Refuses id r) :
    r.response = .json stage.status (ErrorResponse.json ⟨r.message, stage.code⟩) := by
  cases stage with
  | path | body | amount =>
    obtain ⟨_, rfl⟩ := h
    rfl
  | user | sign | deadline | account | identity =>
    obtain rfl := h
    rfl
  | sum =>
    obtain ⟨_, -, rfl⟩ := h
    rfl

end Stage

section Reading

open Service

variable {x : Exchange} {id : List UInt8} {user : UserId} {body : AddTransactionRequest} {t : Transaction}

lemma userId_eq_ok_iff : Input.userId id = .ok user ↔ Names id user := by
  unfold Input.userId Names
  cases Utf8.decode? (Http.decodePercent id) with
  | none => simp
  | some text =>
    cases hread : Uuid.read text.toList with
    | ok u =>
      simp only [Option.some.injEq, exists_eq_left', hread, Except.ok.injEq]
      exact ⟨fun h => h ▸ rfl, fun h => h ▸ rfl⟩
    | error e => simp [hread]

lemma exists_userId_reason (h : ∀ user, ¬ Names id user) : ∃ reason, Input.userId id = .error (.userId reason) := by
  cases hid : Input.userId id with
  | ok user => exact absurd (userId_eq_ok_iff.mp hid) (h user)
  | error r =>
    unfold Input.userId at hid
    split at hid
    · cases hid
      exact ⟨_, rfl⟩
    · split at hid
      · cases hid
      · cases hid
        exact ⟨_, rfl⟩

lemma mapError_eq_ok {ε ε' α : Type} {f : ε → ε'} {a : α} {e : Except ε α} (h : e.mapError f = .ok a) : e = .ok a := by
  cases e with
  | ok b =>
    cases h
    rfl
  | error e => cases h

lemma deposit_eq_ok_iff : Input.deposit x.request.contentType x.request.body = .ok body ↔ x.Says body := by
  constructor
  · intro h
    unfold Input.deposit at h
    split at h
    · cases h
    · next hjson =>
      split at h
      · cases h
      · next hover => exact ⟨by simpa using hjson, by simpa [Input.isOversized] using hover, mapError_eq_ok h⟩
  · intro h
    have hsize : ¬ Input.isOversized x.request.body := by simpa [Input.isOversized] using h.length_le
    rw [Input.deposit, h.json, if_neg (by decide), if_neg hsize, h.decoded]
    rfl

lemma exists_deposit_reason (h : ∀ body, ¬ x.Says body) :
    ∃ reason, Input.deposit x.request.contentType x.request.body = .error (.body reason) := by
  cases hbody : Input.deposit x.request.contentType x.request.body with
  | ok body => exact absurd (deposit_eq_ok_iff.mp hbody) (h body)
  | error r =>
    unfold Input.deposit at hbody
    split at hbody
    · cases hbody
      exact ⟨_, rfl⟩
    · split at hbody
      · cases hbody
        exact ⟨_, rfl⟩
      · obtain ⟨fault, rfl⟩ := mapError_error hbody
        exact ⟨_, rfl⟩

lemma deposit_of_read (hid : Names id user) (hbody : x.Says body) : deposit x.minted id x.request = do
    matchUser user body
    let amount ← readAmount body.amount
    return .ofRequest (body.idempotencyKey.getD x.minted.key) user amount (body.createdAt.getD x.minted.now) := by
  rw [deposit, userId_eq_ok_iff.mpr hid, deposit_eq_ok_iff.mpr hbody]
  rfl

lemma Names.unique {user' : UserId} (h : Names id user) (h' : Names id user') : user = user' :=
  Except.ok.inj ((userId_eq_ok_iff.mpr h).symm.trans (userId_eq_ok_iff.mpr h'))

lemma Says.unique {body' : AddTransactionRequest} (h : x.Says body) (h' : x.Says body') : body = body' :=
  Except.ok.inj (h.decoded.symm.trans h'.decoded)

lemma Means.eq_ofRequest (h : x.Means id t) : ∃ body, x.Says body ∧ body.amount.amount? = some t.amount ∧
    t = .ofRequest (body.idempotencyKey.getD x.minted.key) t.userId t.amount (body.createdAt.getD x.minted.now) := by
  obtain ⟨-, ⟨body, hbody, hamount, hkey, hcreated⟩, hid⟩ := h
  refine ⟨body, hbody, hamount, ?_⟩
  rw [← hkey, ← hcreated, Transaction.ofRequest, ← hid]

lemma Means.unique {t' : Transaction} (h : x.Means id t) (h' : x.Means id t') : t = t' := by
  obtain ⟨body, hbody, hamount, ht⟩ := h.eq_ofRequest
  obtain ⟨body', hbody', hamount', ht'⟩ := h'.eq_ofRequest
  obtain rfl := hbody.unique hbody'
  have hd : t.amount = t'.amount := Option.some.inj (hamount.symm.trans hamount')
  rw [ht, ht', h.user.unique h'.user, hd]

variable {timeout : Option Nat} {s : Store}

lemma matchUser_of_not_fails (h : ¬ Stage.user.Fails timeout s x id) (hid : Names id user) (hbody : x.Says body) :
    matchUser user body = .ok () := by
  cases hother : body.userId with
  | none => simp [matchUser, hother]
  | some other =>
    have heq : other = user := by
      by_contra hne
      exact h ⟨user, body, other, hid, hbody, hother, hne⟩
    simp [matchUser, hother, heq]

lemma deposit_of_means (hmatch : ¬ Stage.user.Fails timeout s x id) (h : x.Means id t) :
    deposit x.minted id x.request = .ok t := by
  obtain ⟨body, hbody, hamount, ht⟩ := h.eq_ofRequest
  rw [deposit_of_read h.user hbody, matchUser_of_not_fails hmatch h.user hbody, readAmount, hamount, ht]
  rfl

lemma exists_means (h : ∀ stage : Stage, stage.place < 4 → ¬ stage.Fails timeout s x id) : ∃ t, x.Means id t := by
  obtain ⟨user, hid⟩ := not_forall_not.mp (h .path (by decide))
  obtain ⟨body, hbody⟩ := not_forall_not.mp (h .body (by decide))
  cases hd : body.amount.amount? with
  | none => exact absurd ⟨body, hbody, hd⟩ (h .amount (by decide))
  | some d =>
    exact ⟨.ofRequest (body.idempotencyKey.getD x.minted.key) user d (body.createdAt.getD x.minted.now),
      hid, ⟨body, hbody, hd, rfl, rfl⟩, rfl⟩

lemma exists_refusal_of_unread {stage : Stage} (hplace : stage.place < 4)
    (h : ∀ earlier : Stage, earlier.place < stage.place → ¬ earlier.Fails timeout s x id)
    (hfails : stage.Fails timeout s x id) :
    ∃ r, stage.Refuses id r ∧ deposit x.minted id x.request = .error r := by
  cases stage with
  | path =>
    obtain ⟨reason, hid⟩ := exists_userId_reason hfails
    exact ⟨_, ⟨reason, rfl⟩, by rw [deposit, hid]; rfl⟩
  | body =>
    obtain ⟨user, hid⟩ := not_forall_not.mp (h .path (by decide))
    obtain ⟨reason, hbody⟩ := exists_deposit_reason hfails
    exact ⟨_, ⟨reason, rfl⟩, by rw [deposit, userId_eq_ok_iff.mpr hid, hbody]; rfl⟩
  | user =>
    obtain ⟨user, body, other, hid, hbody, hother, hne⟩ := hfails
    refine ⟨_, rfl, ?_⟩
    rw [deposit_of_read hid hbody, matchUser, hother, Option.any_some, if_pos (by simpa using hne)]
    rfl
  | amount =>
    obtain ⟨user, hid⟩ := not_forall_not.mp (h .path (by decide))
    obtain ⟨body, hbody, hnone⟩ := hfails
    refine ⟨_, ⟨body.amount, rfl⟩, ?_⟩
    rw [deposit_of_read hid hbody, matchUser_of_not_fails (h .user (by decide)) hid hbody, readAmount, hnone]
    rfl
  | sign | deadline | account | identity | sum => simp [Stage.place] at hplace

end Reading

section Answers

open Service

variable {x : Exchange} {id : List UInt8} {t : Transaction} {timeout : Option Nat} {s : Store}

def fired (timeout : Option Nat) (x : Exchange) : Option Interruption :=
  if x.isLate timeout then some .deadlineExceeded else none

lemma deadline_fails_iff : Stage.deadline.Fails timeout s x id ↔ x.isLate timeout := by
  cases timeout <;> simp [Stage.Fails, isLate]

lemma isValid_of_not_fails (h : ¬ Stage.sign.Fails timeout s x id) (ht : x.Means id t) : t.isValid := by
  rw [Request.isValid_iff]
  by_contra hneg
  exact h ⟨t, ht, not_lt.mp hneg⟩

lemma fired_of_not_fails (h : ¬ Stage.deadline.Fails timeout s x id) : x.fired timeout = none :=
  if_neg (deadline_fails_iff.not.mp h)

lemma identity_fails_iff (ht : x.Means id t) : Stage.identity.Fails timeout s x id ↔ s.isRecorded t.id := by
  rw [Store.isRecorded_iff, List.mem_map]
  constructor
  · rintro ⟨t', ht', r, hr, hid⟩
    exact ⟨r, hr, ht.unique ht' ▸ hid⟩
  · rintro ⟨r, hr, hid⟩
    exact ⟨t, ht, r, hr, hid⟩

lemma isRegistered_of_not_fails (h : ¬ Stage.account.Fails timeout s x id) (ht : x.Means id t) :
    s.isRegistered t.userId := by
  by_contra hreg
  exact h ⟨t.userId, ht.user, hreg⟩

lemma exists_refusal_of_read {stage : Stage} (ht : x.Means id t) (hplace : 4 ≤ stage.place)
    (h : ∀ earlier : Stage, earlier.place < stage.place → ¬ earlier.Fails timeout s x id)
    (hfails : stage.Fails timeout s x id) :
    ∃ e, stage.Refuses id (.ledger e) ∧ Ledger.addTransaction (x.fired timeout) t s = (.error e, s) := by
  cases stage with
  | path | body | user | amount => simp [Stage.place] at hplace
  | sign =>
    obtain ⟨t', ht', hneg⟩ := hfails
    obtain rfl := ht.unique ht'
    exact ⟨_, rfl, Ledger.addTransaction_of_invalid (Request.isValid_iff.not.mpr (not_lt.mpr hneg))⟩
  | deadline =>
    have hv := isValid_of_not_fails (h .sign (by decide)) ht
    refine ⟨_, rfl, ?_⟩
    rw [fired, if_pos (deadline_fails_iff.mp hfails)]
    simp [Ledger.addTransaction, hv, Ledger.interruptible, Interruption.error]
  | account =>
    have hv := isValid_of_not_fails (h .sign (by decide)) ht
    obtain ⟨user, hid, hreg⟩ := hfails
    obtain rfl := ht.user.unique hid
    rw [fired_of_not_fails (h .deadline (by decide))]
    exact ⟨_, rfl, Ledger.addTransaction_of_refused hv (Store.refusal?_of_unregistered hreg)⟩
  | identity =>
    have hv := isValid_of_not_fails (h .sign (by decide)) ht
    have hreg := isRegistered_of_not_fails (h .account (by decide)) ht
    rw [fired_of_not_fails (h .deadline (by decide))]
    exact ⟨_, rfl, Ledger.addTransaction_of_refused hv
      (Store.refusal?_eq_conflict hreg ((identity_fails_iff ht).mp hfails))⟩
  | sum =>
    have hv := isValid_of_not_fails (h .sign (by decide)) ht
    have hreg := isRegistered_of_not_fails (h .account (by decide)) ht
    have hnew := (identity_fails_iff ht).not.mp (h .identity (by decide))
    obtain ⟨t', ht', hsum⟩ := hfails
    obtain rfl := ht.unique ht'
    have href := Store.refusal?_of_new hreg hnew
    rw [if_pos hsum] at href
    rw [fired_of_not_fails (h .deadline (by decide))]
    exact ⟨_, ⟨t.userId, ht.user, rfl⟩, Ledger.addTransaction_of_refused hv href⟩

lemma addTransaction_of_passed (ht : x.Means id t) (h : ∀ stage : Stage, ¬ stage.Fails timeout s x id) :
    Ledger.addTransaction (x.fired timeout) t s = (.ok t, s.put t) := by
  have hnew := (identity_fails_iff ht).not.mp (h .identity)
  have href := Store.refusal?_of_new (isRegistered_of_not_fails (h .account) ht) hnew
  rw [if_neg fun hsum => h .sum ⟨t, ht, hsum⟩] at href
  rw [fired_of_not_fails (h .deadline)]
  exact Ledger.addTransaction_of_accepted (isValid_of_not_fails (h .sign) ht) href

end Answers

section Questions

open Service Work

variable {σ : Type} {r : Repository σ} {x : Exchange} {id : List UInt8} {t : Transaction} {timeout : Option Nat}

def taskOn (r : Repository σ) (timeout : Option Nat) (x : Exchange) : Task σ Http.Response :=
  Service.respond ⟨r, timeout⟩ x.minted (x.signal timeout) x.request

lemma taskOn_eq (hmethod : x.request.method = .post) (hroute : Route.of? x.request.target.path = some (.add id))
    (timeout : Option Nat) : x.taskOn r timeout = proceed (deposit x.minted id x.request) fun t =>
      (Manager.addTransaction r t).task (x.signal timeout)
        (answer 201 fun t => AddTransactionResponse.json ⟨addedMessage, t⟩) := by
  rw [taskOn, respond_eq _ _ _ _ hroute (by rw [hmethod]; rfl), if_neg (by rw [hmethod]; decide)]
  rfl

def asked (es : List Entry) : List Query :=
  es.filterMap fun
  | .asked q => some q
  | .answered _ _ => none

def questions (r : Repository σ) (timeout : Option Nat) (x : Exchange) (state : σ) (looks : List (Look σ)) :
    List Query :=
  asked ((x.taskOn r.journaled timeout).attend { now := x.look } ⟨state, []⟩ (looks.map Look.onJournal)).2.entries

variable {state : σ} {looks : List (Look σ)}

lemma questions_of_start {o : Outcome Http.Response} (h : (x.taskOn r.journaled timeout).start { now := x.look }
    ⟨state, []⟩ = (.finished o, ⟨state, []⟩)) : x.questions r timeout state looks = [] := by
  rw [questions, Task.attend, h, Task.foldl_look_finished, Request.entries_foldl_change]
  rfl

lemma asked_attend {task : Task (Journal σ) Http.Response} {m : Moment} {qs : List Query}
    (hm : ∀ g ∈ task.guard, g.signal.check m = none)
    (h : task.work.Shows Journal.entries (fun es => asked es = qs) (fun es _ => asked es = qs) []) :
    asked (task.attend m ⟨state, []⟩ (looks.map Look.onJournal)).2.entries = qs := by
  refine Task.kept_attend (s := ⟨state, []⟩) (Task.refusal?_eq_none hm) h ?_
  intro l hl j
  obtain ⟨l, -, rfl⟩ := List.mem_map.mp hl
  rfl

lemma questions_of_deposit (hmethod : x.request.method = .post)
    (hroute : Route.of? x.request.target.path = some (.add id)) (hdeposit : deposit x.minted id x.request = .ok t)
    (state : σ) (looks : List (Look σ)) : x.questions r timeout state looks =
      if t.isValid ∧ ¬ x.isLate timeout then [.addTransaction t] else [] := by
  have htask := taskOn_eq (r := r.journaled) hmethod hroute timeout
  rw [hdeposit, proceed] at htask
  by_cases hv : t.isValid
  · simp only [Manager.addTransaction, if_pos hv, Call.task, Task.under, Manager.relay, map_map] at htask
    by_cases hlate : x.isLate timeout
    · rw [if_neg (by simp [hlate])]
      apply questions_of_start
      rw [htask, Task.start, Task.refusal?, Option.bind_some, Guard.refusal?, check_signal, if_pos hlate]
      rfl
    · have hunfired : (x.signal timeout).check { now := x.look } = none := by rw [check_signal, if_neg hlate]
      rw [if_pos ⟨hv, hlate⟩, questions, htask]
      apply asked_attend
      · simpa using hunfired
      · exact shows_noted (q := .addTransaction t) rfl fun y => .done rfl
  · rw [if_neg (by simp [hv])]
    apply questions_of_start
    rw [htask, Manager.addTransaction, if_neg hv]
    rfl

lemma questions_of_refused {e : Refusal} (hmethod : x.request.method = .post)
    (hroute : Route.of? x.request.target.path = some (.add id)) (hdeposit : deposit x.minted id x.request = .error e) :
    x.questions r timeout state looks = [] := by
  apply questions_of_start
  rw [taskOn_eq hmethod hroute, hdeposit]
  rfl

lemma questions_of_fails {s : Store} {stage : Stage} (hmethod : x.request.method = .post)
    (hroute : Route.of? x.request.target.path = some (.add id)) (hplace : stage.place < 6)
    (hfails : stage.Fails timeout s x id) : x.questions r timeout state looks = [] := by
  obtain ⟨first, hfirst, hle, h⟩ := Stage.exists_first hfails
  by_cases hunread : first.place < 4
  · obtain ⟨e, -, hdeposit⟩ := exists_refusal_of_unread hunread h hfirst
    exact questions_of_refused hmethod hroute hdeposit
  · have hread : 4 ≤ first.place := not_lt.mp hunread
    obtain ⟨t, ht⟩ := exists_means fun earlier hearlier => h earlier (hearlier.trans_le hread)
    have hdeposit := deposit_of_means (h .user (Nat.lt_of_lt_of_le (by decide) hread)) ht
    rw [questions_of_deposit hmethod hroute hdeposit, if_neg]
    rintro ⟨hv, hlate⟩
    cases first with
    | path | body | user | amount => exact absurd hread (by decide)
    | sign =>
      obtain ⟨t', ht', hneg⟩ := hfirst
      obtain rfl := ht.unique ht'
      exact absurd (Request.isValid_iff.mp hv) (not_lt.mpr hneg)
    | deadline => exact hlate (deadline_fails_iff.mp hfirst)
    | account | identity | sum => exact absurd (hle.trans_lt hplace) (by decide)

lemma response_of_refused {e : Refusal} (hmethod : x.request.method = .post)
    (hroute : Route.of? x.request.target.path = some (.add id)) (hdeposit : deposit x.minted id x.request = .error e)
    (timeout : Option Nat) (s : Store) : x.response? timeout s = some e.response ∧ x.after timeout s = s := by
  apply of_ends
  change (x.taskOn Store.repository timeout).Ends _ s _ s
  rw [taskOn_eq hmethod hroute, hdeposit]
  exact Task.ends_settled _

end Questions

open Service in
/-- The first stage that fails refuses a request to add a deposit, and nothing is changed. If none fails, what it means
is recorded and is the answer. Any repository is asked at once or not at all: to add what the request means, just when
the first six stages pass. -/
theorem first_failing_stage_answers (timeout : Option Nat) (s : Store) {x : Exchange} {id : List UInt8}
    (hmethod : x.request.method = .post) (hroute : Route.of? x.request.target.path = some (.add id)) :
    (∀ stage : Stage, stage.Fails timeout s x id →
      (∀ earlier : Stage, earlier.place < stage.place → ¬ earlier.Fails timeout s x id) →
      (∃ r, stage.Refuses id r ∧
        x.response? timeout s = some (.json stage.status (ErrorResponse.json ⟨r.message, stage.code⟩))) ∧
      x.after timeout s = s) ∧
    ((∀ stage : Stage, ¬ stage.Fails timeout s x id) → ∃ t, x.Means id t ∧
      x.response? timeout s = some (.json 201 (AddTransactionResponse.json ⟨addedMessage, t⟩)) ∧
      x.after timeout s = s.put t) ∧
    ∀ {σ : Type} (r : Repository σ) (state : σ) (looks : List (Look σ)),
      ((∃ stage : Stage, stage.place < 6 ∧ stage.Fails timeout s x id) →
        x.questions r timeout state looks = []) ∧
      ((∀ stage : Stage, stage.place < 6 → ¬ stage.Fails timeout s x id) → ∃ t, x.Means id t ∧
        x.questions r timeout state looks = [.addTransaction t]) := by
  refine ⟨?_, ?_, ?_⟩
  · intro stage hfails h
    by_cases hplace : stage.place < 4
    · obtain ⟨r, hr, hdeposit⟩ := exists_refusal_of_unread hplace h hfails
      obtain ⟨hresponse, hafter⟩ := response_of_refused hmethod hroute hdeposit timeout s
      exact ⟨⟨r, hr, by rw [hresponse, hr.response_eq]⟩, hafter⟩
    · have hplace : 4 ≤ stage.place := not_lt.mp hplace
      have hread : ∀ earlier : Stage, earlier.place < 4 → ¬ earlier.Fails timeout s x id :=
        fun earlier hearlier => h earlier (hearlier.trans_le hplace)
      obtain ⟨t, ht⟩ := exists_means hread
      have hdeposit := deposit_of_means (hread .user (by decide)) ht
      obtain ⟨hresponse, hafter⟩ := response_of_deposit hmethod hroute hdeposit timeout s
      obtain ⟨e, he, hadd⟩ := exists_refusal_of_read ht hplace h hfails
      rw [← fired, hadd] at hresponse hafter
      exact ⟨⟨_, he, by rw [hresponse, ← he.response_eq]; rfl⟩, hafter⟩
  · intro h
    obtain ⟨t, ht⟩ := exists_means fun stage _ => h stage
    obtain ⟨hresponse, hafter⟩ := response_of_deposit hmethod hroute (deposit_of_means (h .user) ht) timeout s
    rw [← fired, addTransaction_of_passed ht h] at hresponse hafter
    exact ⟨t, ht, hresponse, hafter⟩
  · intro σ r state looks
    refine ⟨?_, ?_⟩
    · rintro ⟨stage, hplace, hfails⟩
      exact questions_of_fails hmethod hroute hplace hfails
    · intro h
      obtain ⟨t, ht⟩ := exists_means fun stage hplace => h stage (hplace.trans (by decide))
      have hdeposit := deposit_of_means (h .user (by decide)) ht
      have hv := isValid_of_not_fails (h .sign (by decide)) ht
      have hlate := deadline_fails_iff.not.mp (h .deadline (by decide))
      exact ⟨t, ht, by rw [questions_of_deposit hmethod hroute hdeposit, if_pos ⟨hv, hlate⟩]⟩

def ownerPath : List UInt8 := Utf8.encode "67e55044-10b1-426f-9247-bb680e5fe0c8"

lemma names_owner : Names ownerPath owner :=
  ⟨"67e55044-10b1-426f-9247-bb680e5fe0c8", by decide +kernel, by decide +kernel⟩

def misaddressed : Exchange :=
  post "/users/67e55044-10b1-426f-9247-bb680e5fe0c8/add"
    "\x7b\"user_id\": \"0d7f5d8e-3a55-4c35-9d8e-0c2b5f5e3c11\", \"amount\": \"ten\"\x7d"

lemma misaddressed_says : misaddressed.Says ⟨some ⟨ownerKey.uuid⟩, .text "ten", none, none⟩ :=
  ⟨by decide +kernel, by decide +kernel, by decide +kernel⟩

lemma misaddressed_reaches_user : ∀ earlier : Stage, earlier.place < Stage.user.place →
    ¬ earlier.Fails (some 0) {} misaddressed ownerPath := by
  intro earlier hearlier
  cases earlier with
  | path => exact fun h => h owner names_owner
  | body => exact fun h => h _ misaddressed_says
  | user | amount | sign | deadline | account | identity | sum => exact absurd hearlier (by decide)

def plainDeposit : Transaction := .ofRequest ownerKey owner ((Amount.of? 250 2).getD default) plain.minted.now

lemma plain_says : plain.Says ⟨none, .text "2.50", some ownerKey, none⟩ :=
  ⟨by decide +kernel, by decide +kernel, by decide +kernel⟩

lemma plain_means : plain.Means ownerPath plainDeposit :=
  ⟨names_owner, ⟨_, plain_says, by decide +kernel, rfl, rfl⟩, rfl⟩

lemma plain_passes (stage : Stage) : ¬ stage.Fails (some 10) (opening.after none {}) plain ownerPath := by
  intro hfails
  cases stage with
  | path => exact hfails owner names_owner
  | body => exact hfails _ plain_says
  | user =>
    obtain ⟨user, body, other, -, hbody, hother, -⟩ := hfails
    obtain rfl := plain_says.unique hbody
    cases hother
  | amount =>
    obtain ⟨body, hbody, hnone⟩ := hfails
    obtain rfl := plain_says.unique hbody
    exact absurd hnone (by decide +kernel)
  | sign =>
    obtain ⟨t, ht, hneg⟩ := hfails
    obtain rfl := plain_means.unique ht
    exact absurd hneg (by decide +kernel)
  | deadline =>
    obtain ⟨ms, hms, hover⟩ := hfails
    cases hms
    exact absurd hover (by decide)
  | account =>
    obtain ⟨user, huser, hfree⟩ := hfails
    obtain rfl := names_owner.unique huser
    exact hfree (by decide +kernel)
  | identity =>
    obtain ⟨t, -, r, hr, -⟩ := hfails
    have hempty : (opening.after none {}).index = [] := by decide +kernel
    rw [hempty] at hr
    cases hr
  | sum =>
    obtain ⟨t, ht, hsum⟩ := hfails
    obtain rfl := plain_means.unique ht
    exact absurd hsum (by decide +kernel)

open Service in
theorem misaddressed_refused_and_plain_recorded :
    misaddressed.response? (some 0) {} =
      some (.json 400 (ErrorResponse.json ⟨"user_id in body does not match path", "USER_MISMATCH"⟩)) ∧
    plain.response? (some 10) (opening.after none {}) =
      some (.json 201 (AddTransactionResponse.json ⟨addedMessage, plainDeposit⟩)) ∧
    plain.after (some 10) (opening.after none {}) = (opening.after none {}).put plainDeposit ∧
    plain.questions Store.repository (some 10) (opening.after none {}) [] = [.addTransaction plainDeposit] := by
  have hmisaddressed : Route.of? misaddressed.request.target.path = some (.add ownerPath) := by decide +kernel
  have hplain : Route.of? plain.request.target.path = some (.add ownerPath) := by decide +kernel
  obtain ⟨hfirst, -, -⟩ := first_failing_stage_answers (some 0) {} rfl hmisaddressed
  obtain ⟨⟨r, rfl, hrefused⟩, -⟩ := hfirst .user
    ⟨owner, _, _, names_owner, misaddressed_says, rfl, by decide⟩ misaddressed_reaches_user
  obtain ⟨-, hpassed, hasked⟩ := first_failing_stage_answers (some 10) (opening.after none {}) rfl hplain
  obtain ⟨t, ht, hresponse, hafter⟩ := hpassed plain_passes
  obtain rfl := plain_means.unique ht
  obtain ⟨t, ht, hquestions⟩ := (hasked Store.repository (opening.after none {}) []).2 fun stage _ => plain_passes stage
  obtain rfl := plain_means.unique ht
  exact ⟨hrefused, hresponse, hafter, hquestions⟩

end Exchange

end Passbook
