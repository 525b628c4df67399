import Passbook.Proofs.Amount.Normal
import Passbook.Proofs.Service.Exchange

/-! Requests that are sent again. The identity of a deposit is made of the key, the user and the value of the amount,
so a request that says the same in other words comes to the same identity, and is refused as long as the store lasts. -/

namespace Passbook

open Amount

lemma Refusal.status_ne (r : Refusal) {status : Nat} (h : status < 400) : r.response.status ≠ status := by
  refine Nat.ne_of_gt (Nat.lt_of_lt_of_le h ?_)
  cases r with
  | ledger e => cases e <;> simp [response, Http.Response.json, Refusal.status, LedgerError.status]
  | userId | body | query | userMismatch | amount | oversized => simp [response, Http.Response.json, Refusal.status]

namespace Exchange

def Adds (x : Exchange) (user : UserId) (key : IdempotencyKey) (d : Amount) : Prop :=
  x.request.method = .post ∧ ∃ id body, Route.of? x.request.target.path = some (.add id) ∧
    Input.userId id = .ok user ∧ Input.deposit x.request.contentType x.request.body = .ok body ∧
    (body.userId = none ∨ body.userId = some user) ∧ body.idempotencyKey.getD x.minted.key = key ∧
    body.amount.amount? = some d

def conflictResponse : Http.Response :=
  .json 409 (ErrorResponse.json ⟨"transaction already exists", "TRANSACTION_ALREADY_EXISTS"⟩)

def lateResponse : Http.Response := .json 504 (ErrorResponse.json ⟨"deadline exceeded", "DEADLINE_EXCEEDED"⟩)

variable {timeout : Option Nat} {x : Exchange} {user : UserId} {key : IdempotencyKey} {d : Amount}

lemma Adds.deposit_eq (h : x.Adds user key d) : x.request.method = .post ∧ ∃ id createdAt,
    Route.of? x.request.target.path = some (.add id) ∧
    Service.deposit x.minted id x.request = .ok (.ofRequest key user d createdAt) := by
  obtain ⟨hmethod, id, body, hroute, hid, hbody, huser, hkey, hamount⟩ := h
  have hmatch : Service.matchUser user body = .ok () := by
    rcases huser with h | h <;> simp [Service.matchUser, h]
  refine ⟨hmethod, id, body.createdAt.getD x.minted.now, hroute, ?_⟩
  simp [Service.deposit, hid, hbody, hmatch, Service.readAmount, hamount, hkey, Bind.bind, Except.bind, Pure.pure,
    Except.pure]

lemma Adds.response_eq (h : x.Adds user key d) (timeout : Option Nat) : ∃ createdAt, ∀ s,
    let added := Ledger.addTransaction (if x.isLate timeout then some .deadlineExceeded else none)
      (.ofRequest key user d createdAt) s
    x.response? timeout s =
        some (Service.answer 201 (fun t => AddTransactionResponse.json ⟨Service.addedMessage, t⟩) added.1) ∧
      x.after timeout s = added.2 := by
  obtain ⟨hmethod, id, createdAt, hroute, hdeposit⟩ := h.deposit_eq
  exact ⟨createdAt, response_of_deposit hmethod hroute hdeposit timeout⟩

lemma Adds.recorded_of_created (h : x.Adds user key d) {s : Store}
    (hcreated : (x.response? timeout s).map Http.Response.status = some 201) :
    0 < d.value ∧ (x.after timeout s).isRegistered user ∧ (x.after timeout s).isRecorded (.derive key user d) := by
  obtain ⟨createdAt, heq⟩ := h.response_eq timeout
  obtain ⟨hresponse, hafter⟩ := heq s
  rw [hresponse] at hcreated
  rw [hafter]
  generalize (if x.isLate timeout then some Interruption.deadlineExceeded else none) = fired at hcreated ⊢
  rcases Ledger.addTransaction_cases fired (.ofRequest key user d createdAt) s with ⟨e, hadd⟩ | ⟨hv, href, hadd⟩
  · rw [hadd] at hcreated
    exact absurd (Option.some.inj hcreated) ((Refusal.ledger e).status_ne (by decide))
  · rw [hadd]
    refine ⟨isPositive_iff.mp hv, ?_, ?_⟩
    · rw [Store.isRegistered_put]
      exact Store.isRegistered_of_refusal? href
    · simp [Store.isRecorded_put, Transaction.ofRequest]

lemma derive_eq_of_value_eq {d' : Amount} (h : d.value = d'.value) :
    TransactionId.derive key user d = .derive key user d' := by
  rw [TransactionId.derive, TransactionId.derive, TransactionId.name, TransactionId.name, normalize_eq_of_value_eq h]

lemma Adds.refused_of_recorded (h : x.Adds user key d) {s : Store} (hpos : 0 < d.value) (hreg : s.isRegistered user)
    (hrec : s.isRecorded (.derive key user d)) :
    x.response? timeout s = some (if x.isLate timeout then lateResponse else conflictResponse) ∧
      x.after timeout s = s := by
  obtain ⟨createdAt, heq⟩ := h.response_eq timeout
  obtain ⟨hresponse, hafter⟩ := heq s
  have hv : (Transaction.ofRequest key user d createdAt).isValid := isPositive_iff.mpr hpos
  rw [hresponse, hafter]
  by_cases hlate : x.isLate timeout
  · simp only [if_pos hlate, Ledger.addTransaction, if_pos hv, Ledger.interruptible]
    exact ⟨rfl, trivial⟩
  · have href : s.refusal? (.ofRequest key user d createdAt) = some (.conflict (.derive key user d)) :=
      Store.refusal?_eq_conflict hreg hrec
    simp only [if_neg hlate, Ledger.addTransaction_of_refused hv href]
    exact ⟨rfl, trivial⟩

end Exchange

open Exchange in
/-- Once a request to add an amount has been answered with 201, every later one that says the same to the same user
under the same key is refused, whatever comes between, and changes nothing. -/
theorem retry_answers_conflict (timeout : Option Nat) {first retry : Exchange} {user : UserId} {key : IdempotencyKey}
    {d d' : Amount} (hfirst : first.Adds user key d) (hretry : retry.Adds user key d') (hvalue : d.value = d'.value)
    {s : Store} (hcreated : (first.response? timeout s).map Http.Response.status = some 201)
    (between : List Exchange) :
    let later := (first.after timeout s).exchange timeout between
    retry.response? timeout later = some (if retry.isLate timeout then lateResponse else conflictResponse) ∧
      retry.after timeout later = later := by
  intro later
  obtain ⟨hpos, hreg, hrec⟩ := hfirst.recorded_of_created hcreated
  rw [derive_eq_of_value_eq hvalue] at hrec
  exact hretry.refused_of_recorded (hvalue ▸ hpos) (Store.isRegistered_exchange hreg between)
    (Store.isRecorded_exchange hrec between)

namespace Exchange

def post (path body : String) : Exchange where
  minted := ⟨default, default, default⟩
  request := {
    method := .post
    target := { path := Utf8.encode path }
    contentType := some "application/json"
    body := Utf8.encode body }

def owner : UserId :=
  ⟨(Uuid.ofBytes? [0x67, 0xe5, 0x50, 0x44, 0x10, 0xb1, 0x42, 0x6f, 0x92, 0x47, 0xbb, 0x68, 0x0e, 0x5f, 0xe0, 0xc8]).getD
    default⟩

def ownerKey : IdempotencyKey :=
  ⟨(Uuid.ofBytes? [0x0d, 0x7f, 0x5d, 0x8e, 0x3a, 0x55, 0x4c, 0x35, 0x9d, 0x8e, 0x0c, 0x2b, 0x5f, 0x5e, 0x3c, 0x11]).getD
    default⟩

def opening : Exchange := post "/users" "\x7b\"id\": \"67e55044-10b1-426f-9247-bb680e5fe0c8\"\x7d"

def plain : Exchange :=
  post "/users/67e55044-10b1-426f-9247-bb680e5fe0c8/add"
    "\x7b\"amount\": \"2.50\", \"idempotency_key\": \"0d7f5d8e-3a55-4c35-9d8e-0c2b5f5e3c11\"\x7d"

def unkeyed : Exchange := post "/users/67e55044-10b1-426f-9247-bb680e5fe0c8/add" "\x7b\"amount\": 2.5\x7d"

def disguised : Exchange :=
  post "/users/67E5504410B1426F9247BB680E5FE0C8/add"
    ("\x7b\"created_at\": \"2026-02-03T04:05:06+01:00\", \"user_id\": \"67e5504410b1426f9247bb680e5fe0c8\", " ++
      "\"amount\": 25e-1, \"idempotency_key\": \"urn:uuid:0D7F5D8E-3A55-4C35-9D8E-0C2B5F5E3C11\"\x7d")

theorem retry_disguised :
    let later := (plain.after none (Store.exchange none {} [opening])).exchange none [unkeyed, plain]
    disguised.response? none later = some conflictResponse ∧ disguised.after none later = later := by
  have hplain : plain.Adds owner ownerKey ((Amount.of? 250 2).getD default) :=
    ⟨rfl, Utf8.encode "67e55044-10b1-426f-9247-bb680e5fe0c8", ⟨none, .text "2.50", some ownerKey, none⟩,
      by decide +kernel, by decide +kernel, by decide +kernel, .inl rfl, rfl, by decide +kernel⟩
  have hdisguised : disguised.Adds owner ownerKey ((Amount.of? 25 1).getD default) :=
    ⟨rfl, Utf8.encode "67E5504410B1426F9247BB680E5FE0C8",
      ⟨some owner, .number "25e-1", some ownerKey, Instant.of? 1770087906 0⟩,
      by decide +kernel, by decide +kernel, by decide +kernel, .inr rfl, rfl, by decide +kernel⟩
  exact retry_answers_conflict none hplain hdisguised (by decide +kernel) (by decide +kernel) [unkeyed, plain]

end Exchange

end Passbook
