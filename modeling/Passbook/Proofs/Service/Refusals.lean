import Passbook.Proofs.Json.Rendering
import Passbook.Proofs.Service.Responses
import Passbook.Proofs.Work.Looks

/-! How the service refuses. Whatever stage refuses a request, and whatever ends it, the response is a JSON error with a
code. The one exception is a body that is too long to be read, where the route reads its body itself. -/

namespace Passbook

def errorCodes : List String := ["INVALID_TRANSACTION", "INVALID_PAGINATION", "TRANSACTION_ALREADY_EXISTS",
  "USER_ALREADY_EXISTS", "USER_NOT_FOUND", "CANCELLED", "DEADLINE_EXCEEDED", "STORAGE_FAILURE", "INVALID_USER_ID",
  "INVALID_BODY", "INVALID_QUERY", "USER_MISMATCH", "INVALID_AMOUNT"]

def Http.Response.IsJsonError (r : Http.Response) (method : Http.Method) : Prop :=
  r.contentType = some "application/json" ∧ (method ≠ .head → ∃ e : ErrorResponse, e.code ∈ errorCodes ∧
    Json.decodeAll Json.value (Utf8.encode r.body) = .ok (.object [("code", .text e.code), ("error", .text e.error)]))

namespace Input

def NamesUser (id : List UInt8) : Prop :=
  ∃ text x, Utf8.decode? (Http.decodePercent id) = some text ∧ Uuid.read text.toList = .ok x

def valuesOf (name : String) (pairs : List (List UInt8 × List UInt8)) : List (List UInt8) :=
  (pairs.filter (·.1 = Utf8.encode name)).map Prod.snd

def IsCount (values : List (List UInt8)) : Prop := values.length ≤ 1 ∧
  ∀ value ∈ values, ∃ n, Text.unsigned? wordLimit (value.map fun b => Char.ofNat b.toNat) = .ok n

end Input

open Input in
def Route.Misread (request : Http.Request) : Route → Prop
  | users => request.body ≠ [] ∧ ∀ r, Json.decodeAll CreateUserRequest.decode request.body ≠ .ok r
  | add id => ¬ NamesUser id ∨ ¬ request.contentType.any Http.MediaType.isJson ∨ maxBody < request.body.length ∨
      ∀ r, Json.decodeAll AddTransactionRequest.decode request.body ≠ .ok r
  | balance id => ¬ NamesUser id
  | history id => ¬ NamesUser id ∨ ∃ name ∈ ["page", "pageSize"],
      ¬ IsCount (valuesOf name (Http.formPairs (request.target.query.getD [])))

section Stages

open Input Service

lemma exists_of_bind_error {ε α β : Type} {x : Except ε α} {f : α → Except ε β} {e : ε} (h : x >>= f = .error e) :
    x = .error e ∨ ∃ a, x = .ok a ∧ f a = .error e := by
  cases x with
  | ok a => exact .inr ⟨a, rfl, h⟩
  | error e' =>
    cases h
    exact .inl rfl

variable {id body : List UInt8} {minted : Minted} {request : Http.Request} {r : Refusal}

lemma userId_error (h : userId id = .error r) : r.status = 400 := by
  unfold userId at h
  split at h
  · cases h
    rfl
  · split at h
    · cases h
    · cases h
      rfl

lemma exists_userId_error (h : ¬ NamesUser id) : ∃ r, userId id = .error r := by
  unfold userId
  split
  · exact ⟨_, rfl⟩
  · next text htext =>
    split
    · next x hx => exact absurd ⟨text, x, htext, hx⟩ h
    · exact ⟨_, rfl⟩

lemma mapError_error {ε ε' α : Type} {f : ε → ε'} {x : Except ε α} {e' : ε'} (h : x.mapError f = .error e') :
    ∃ e, f e = e' := by
  cases x with
  | ok a => cases h
  | error e => exact ⟨e, by injection h⟩

lemma exists_mapError {ε ε' α : Type} {x : Except ε α} (f : ε → ε') (h : ∀ a, x ≠ .ok a) :
    ∃ e', x.mapError f = .error e' := by
  cases x with
  | ok a => exact absurd rfl (h a)
  | error e => exact ⟨f e, rfl⟩

lemma newUser_error (hsize : body.length ≤ maxBody) (h : Service.newUser minted body = .error r) : r.status = 400 := by
  have hbody : Input.newUser body = .error r := by
    rcases exists_of_bind_error h with h | ⟨a, -, h⟩
    · exact h
    · cases h
  unfold Input.newUser at hbody
  split at hbody
  · next hover =>
    simp only [isOversized, decide_eq_true_eq] at hover
    omega
  · split at hbody
    · cases hbody
    · obtain ⟨fault, rfl⟩ := mapError_error hbody
      cases fault <;> rfl

lemma exists_newUser_error (minted : Minted) (hsize : body.length ≤ maxBody) (hne : body ≠ [])
    (h : ∀ r, Json.decodeAll CreateUserRequest.decode body ≠ .ok r) : ∃ r, Service.newUser minted body = .error r := by
  have hbody : ∃ r, Input.newUser body = .error r := by
    unfold Input.newUser
    rw [if_neg (by simpa [isOversized] using hsize), if_neg (by simpa using hne)]
    exact exists_mapError _ h
  obtain ⟨r, hr⟩ := hbody
  exact ⟨r, by rw [Service.newUser, hr]; rfl⟩

lemma inputDeposit_error {contentType : Option String} (h : Input.deposit contentType body = .error r) :
    r.status = 400 := by
  unfold Input.deposit at h
  split at h
  · cases h
    rfl
  · split at h
    · cases h
      rfl
    · obtain ⟨fault, rfl⟩ := mapError_error h
      rfl

lemma exists_inputDeposit_error {contentType : Option String} (h : ¬ contentType.any Http.MediaType.isJson ∨
    maxBody < body.length ∨ ∀ r, Json.decodeAll AddTransactionRequest.decode body ≠ .ok r) :
    ∃ r, Input.deposit contentType body = .error r := by
  unfold Input.deposit
  split
  · exact ⟨_, rfl⟩
  · split
    · exact ⟨_, rfl⟩
    · next htype hover =>
      rcases h with h | h | h
      · exact absurd h (by simpa using htype)
      · exact absurd h (by simpa [isOversized] using hover)
      · exact exists_mapError _ h

lemma deposit_error (h : Service.deposit minted id request = .error r) : r.status = 400 := by
  rcases exists_of_bind_error h with h | ⟨user, -, h⟩
  · exact userId_error h
  rcases exists_of_bind_error h with h | ⟨body, -, h⟩
  · exact inputDeposit_error h
  rcases exists_of_bind_error h with h | ⟨-, -, h⟩
  · unfold matchUser at h
    split at h <;> cases h
    rfl
  rcases exists_of_bind_error h with h | ⟨amount, -, h⟩
  · unfold readAmount at h
    cases ha : body.amount.amount? <;> rw [ha] at h <;> cases h
    rfl
  · cases h

lemma exists_deposit_error (minted : Minted) (h : (Route.add id).Misread request) :
    ∃ r, Service.deposit minted id request = .error r := by
  unfold Service.deposit
  cases huser : userId id with
  | error r => exact ⟨r, rfl⟩
  | ok user =>
    rcases h with h | h
    · obtain ⟨r, hr⟩ := exists_userId_error h
      rw [hr] at huser
      cases huser
    · obtain ⟨r, hr⟩ := exists_inputDeposit_error h
      exact ⟨r, by rw [hr]; rfl⟩

end Stages

section Queries

open Input

variable {pairs : List (List UInt8 × List UInt8)} {q q' : HistoryQuery} {r : Refusal}

lemma queryStep_error {pair : List UInt8 × List UInt8} (h : queryStep q pair = .error r) : r.status = 400 := by
  have hnumber : ∀ name (f : Nat → HistoryQuery), (queryNumber name pair.2).map f = .error r → r.status = 400 := by
    intro name f h
    unfold queryNumber at h
    cases hn : Text.unsigned? wordLimit (pair.2.map fun b => Char.ofNat b.toNat) <;> rw [hn] at h <;> cases h
    rfl
  unfold queryStep at h
  split at h
  · split at h
    · cases h
      rfl
    · exact hnumber _ _ h
  · split at h
    · split at h
      · cases h
        rfl
      · exact hnumber _ _ h
    · cases h

lemma historyQuery_error {query : Option (List UInt8)} (h : historyQuery query = .error r) : r.status = 400 := by
  unfold historyQuery at h
  generalize Http.formPairs (query.getD []) = pairs at h
  generalize (⟨none, none⟩ : HistoryQuery) = q at h
  induction pairs generalizing q with
  | nil => cases h
  | cons pair pairs ih =>
    rcases exists_of_bind_error h with h | ⟨q', -, h⟩
    · exact queryStep_error h
    · exact ih q' h

lemma exists_of_map_queryNumber {name : String} {value : List UInt8} {f : Nat → HistoryQuery}
    (h : (queryNumber name value).map f = .ok q) : IsCount [value] ∧ ∃ n, f n = q := by
  unfold queryNumber at h
  cases hn : Text.unsigned? wordLimit (value.map fun b => Char.ofNat b.toNat) <;> rw [hn] at h <;> cases h
  exact ⟨⟨Nat.le_refl 1, by simpa using ⟨_, hn⟩⟩, _, rfl⟩

lemma queryStep_ok {pair : List UInt8 × List UInt8} (h : queryStep q pair = .ok q') :
    (pair.1 = Utf8.encode "page" ∧ q.page = none ∧ IsCount [pair.2] ∧ q'.page.isSome ∧ q'.pageSize = q.pageSize) ∨
    (pair.1 = Utf8.encode "pageSize" ∧ q.pageSize = none ∧ IsCount [pair.2] ∧ q'.pageSize.isSome ∧ q'.page = q.page) ∨
    (pair.1 ≠ Utf8.encode "page" ∧ pair.1 ≠ Utf8.encode "pageSize" ∧ q' = q) := by
  unfold queryStep at h
  split at h
  · next hname =>
    split at h
    · cases h
    · next hfree =>
      obtain ⟨hcount, n, rfl⟩ := exists_of_map_queryNumber h
      exact .inl ⟨hname, by simpa using hfree, hcount, rfl, rfl⟩
  · next hpage =>
    split at h
    · next hname =>
      split at h
      · cases h
      · next hfree =>
        obtain ⟨hcount, n, rfl⟩ := exists_of_map_queryNumber h
        exact .inr (.inl ⟨hname, by simpa using hfree, hcount, rfl, rfl⟩)
    · next hsize =>
      cases h
      exact .inr (.inr ⟨hpage, hsize, rfl⟩)

def IsSlot (name : String) (slot : HistoryQuery → Option Nat) : Prop :=
  ∀ q pair q', queryStep q pair = .ok q' →
    (pair.1 = Utf8.encode name ∧ slot q = none ∧ (slot q').isSome ∧ IsCount [pair.2]) ∨
    (pair.1 ≠ Utf8.encode name ∧ slot q' = slot q)

lemma isSlot_page : IsSlot "page" HistoryQuery.page := by
  intro q pair q' h
  rcases queryStep_ok h with ⟨hname, hfree, hcount, hset, -⟩ | ⟨hname, -, -, -, hkept⟩ | ⟨hname, -, rfl⟩
  · exact .inl ⟨hname, hfree, hset, hcount⟩
  · exact .inr ⟨by rw [hname]; decide, hkept⟩
  · exact .inr ⟨hname, rfl⟩

lemma isSlot_pageSize : IsSlot "pageSize" HistoryQuery.pageSize := by
  intro q pair q' h
  rcases queryStep_ok h with ⟨hname, -, -, -, hkept⟩ | ⟨hname, hfree, hcount, hset, -⟩ | ⟨-, hname, rfl⟩
  · exact .inr ⟨by rw [hname]; decide, hkept⟩
  · exact .inl ⟨hname, hfree, hset, hcount⟩
  · exact .inr ⟨hname, rfl⟩

lemma IsSlot.isCount {name : String} {slot : HistoryQuery → Option Nat} (hslot : IsSlot name slot)
    (h : pairs.foldlM queryStep q = .ok q') :
    IsCount (valuesOf name pairs) ∧ ((slot q).isSome → valuesOf name pairs = []) := by
  induction pairs generalizing q with
  | nil => exact ⟨⟨Nat.zero_le 1, by simp [valuesOf]⟩, fun _ => rfl⟩
  | cons pair pairs ih =>
    obtain ⟨q₁, hstep, h⟩ := exists_of_bind_ok h
    obtain ⟨hcount, hfilled⟩ := ih h
    rcases hslot q pair q₁ hstep with ⟨hname, hfree, hset, hvalue⟩ | ⟨hname, hkept⟩
    · have hvalues : valuesOf name (pair :: pairs) = [pair.2] := by
        have hrest := hfilled hset
        unfold valuesOf at hrest ⊢
        rw [List.filter_cons_of_pos (by simpa using hname), List.map_cons, hrest]
      rw [hvalues]
      exact ⟨hvalue, by simp [hfree]⟩
    · have hvalues : valuesOf name (pair :: pairs) = valuesOf name pairs := by
        unfold valuesOf
        rw [List.filter_cons_of_neg (by simpa using hname)]
      rw [hvalues, ← hkept]
      exact ⟨hcount, hfilled⟩

lemma exists_historyQuery_error {query : Option (List UInt8)}
    (h : ∃ name ∈ ["page", "pageSize"], ¬ IsCount (valuesOf name (Http.formPairs (query.getD [])))) :
    ∃ r, historyQuery query = .error r := by
  obtain ⟨name, hname, hcount⟩ := h
  cases hq : historyQuery query with
  | error r => exact ⟨r, rfl⟩
  | ok q =>
    rcases List.mem_pair.mp hname with rfl | rfl
    · exact absurd (isSlot_page.isCount hq).1 hcount
    · exact absurd (isSlot_pageSize.isCount hq).1 hcount

lemma historyPage_error {id : List UInt8} {query : Option (List UInt8)} (h : Service.historyPage id query = .error r) :
    r.status = 400 := by
  rcases exists_of_bind_error h with h | ⟨user, -, h⟩
  · exact userId_error h
  rcases exists_of_bind_error h with h | ⟨q, -, h⟩
  · exact historyQuery_error h
  · cases h

lemma exists_historyPage_error {id : List UInt8} {request : Http.Request} (h : (Route.history id).Misread request) :
    ∃ r, Service.historyPage id request.target.query = .error r := by
  unfold Service.historyPage
  cases huser : userId id with
  | error r => exact ⟨r, rfl⟩
  | ok user =>
    rcases h with h | h
    · obtain ⟨r, hr⟩ := exists_userId_error h
      rw [hr] at huser
      cases huser
    · obtain ⟨r, hr⟩ := exists_historyQuery_error h
      exact ⟨r, by rw [hr]; rfl⟩

end Queries

section Tasks

open Service

variable {σ : Type} {request : Http.Request} {route : Route}

def RefusesInJson (method : Http.Method) (o : Outcome Http.Response) : Prop :=
  400 ≤ o.answer.status → o.answer.IsJsonError method

lemma Refusal.isJsonError {r : Refusal} (h : r ≠ .oversized) (method : Http.Method) :
    r.response.IsJsonError method := by
  have hcode : r.code ∈ errorCodes := by
    cases r with
    | ledger e => cases e <;> simp [Refusal.code, LedgerError.code, errorCodes]
    | userId | body | query | userMismatch | amount | oversized => simp [Refusal.code, errorCodes]
  have hresponse : r.response = .json r.status (ErrorResponse.json ⟨r.message, r.code⟩) := by
    cases r with
    | oversized => exact absurd rfl h
    | userId | body | query | userMismatch | amount | ledger => rfl
  rw [hresponse]
  exact ⟨rfl, fun _ => ⟨⟨r.message, r.code⟩, hcode, ErrorResponse.value_json _⟩⟩

lemma Refusal.ne_oversized {r : Refusal} (h : r.status = 400) : r ≠ .oversized := by
  rintro rfl
  cases h

lemma Refusal.status_response (r : Refusal) : r.response.status = r.status := by cases r <;> rfl

lemma always_proceed {method : Http.Method} {α : Type} {stages : Except Refusal α} {next : α → Task σ Http.Response}
    (hstages : ∀ r, stages = .error r → r.status = 400) (hnext : ∀ a, (next a).Always (RefusesInJson method)) :
    (proceed stages next).Always (RefusesInJson method) := by
  cases stages with
  | ok a => exact hnext a
  | error r => exact Task.always_settled fun _ => Refusal.isJsonError (Refusal.ne_oversized (hstages r rfl)) method

lemma always_call {α : Type} (method : Http.Method) (call : Call σ α) (signal : Signal) {status : Nat}
    (hstatus : status < 400) (body : α → String) :
    (call.task signal (answer status body)).Always (RefusesInJson method) := by
  have hanswer : ∀ events x, RefusesInJson method ⟨events, answer status body x⟩ := by
    intro events x hx
    cases x with
    | ok a => exact absurd hx (Nat.not_le.mpr hstatus)
    | error e => exact Refusal.isJsonError (by simp) method
  cases call with
  | refused e => exact Task.always_settled (hanswer _ _)
  | operation work report => exact Task.always_under signal work fun _ x => hanswer _ x

lemma always_perform (service : Service σ) (minted : Minted) (signal : Signal)
    (hsize : route = .users → request.body.length ≤ Input.maxBody) (method : Http.Method) :
    (service.perform minted signal request route).Always (RefusesInJson method) := by
  cases route with
  | users =>
    exact always_proceed (fun r => newUser_error (hsize rfl)) fun user => always_call method _ signal (by decide) _
  | add id => exact always_proceed (fun r => deposit_error) fun t => always_call method _ signal (by decide) _
  | balance id => exact always_proceed (fun r => userId_error) fun user => always_call method _ signal (by decide) _
  | history id => exact always_proceed (fun r => historyPage_error) fun q => always_call method _ signal (by decide) _

lemma respond_eq (service : Service σ) (minted : Minted) (signal : Signal) (request : Http.Request)
    (hroute : Route.of? request.target.path = some route) (hallows : route.allows request.method) :
    service.respond minted signal request = if request.method = .head
      then (service.perform minted signal request route).map Http.Response.withoutBody
      else service.perform minted signal request route := by
  rw [respond, hroute]
  exact if_pos hallows

lemma perform_users_of_oversized (service : Service σ) (minted : Minted) (signal : Signal)
    (h : Input.isOversized request.body) : service.perform minted signal request .users = refuse .oversized := by
  rw [perform, Service.newUser, Input.newUser, if_pos h]
  rfl

lemma perform_add_of_oversized (service : Service σ) (minted : Minted) (signal : Signal) {id : List UInt8}
    {user : UserId} (hid : Input.userId id = .ok user) (hjson : request.contentType.any Http.MediaType.isJson)
    (h : Input.isOversized request.body) :
    service.perform minted signal request (.add id) = refuse (.body Refusal.oversizedMessage) := by
  have hbody : Input.deposit request.contentType request.body = .error (.body Refusal.oversizedMessage) := by
    rw [Input.deposit, hjson, if_neg (by decide), if_pos h]
  rw [perform, Service.deposit, hid, hbody]
  rfl

lemma perform_of_misread (service : Service σ) (minted : Minted) (signal : Signal)
    (hsize : route = .users → request.body.length ≤ Input.maxBody) (h : route.Misread request) :
    ∃ r : Refusal, r.status = 400 ∧ service.perform minted signal request route = refuse r := by
  cases route with
  | users =>
    obtain ⟨r, hr⟩ := exists_newUser_error minted (hsize rfl) h.1 h.2
    exact ⟨r, newUser_error (hsize rfl) hr, by rw [perform, hr]; rfl⟩
  | add id =>
    obtain ⟨r, hr⟩ := exists_deposit_error minted h
    exact ⟨r, deposit_error hr, by rw [perform, hr]; rfl⟩
  | balance id =>
    obtain ⟨r, hr⟩ := exists_userId_error h
    exact ⟨r, userId_error hr, by rw [perform, hr]; rfl⟩
  | history id =>
    obtain ⟨r, hr⟩ := exists_historyPage_error h
    exact ⟨r, historyPage_error hr, by rw [perform, hr]; rfl⟩

end Tasks

open Service in
/-- Over any repository and under any signal, a request on one of the four routes, of a method that it allows, is
answered with a JSON error if it is answered with an error. One that is misread is answered at once, with 400, and the
store itself answers every request at once. The body of a new user must be short enough to be read. -/
theorem refusals_are_json_errors {σ : Type} (service : Service σ) (minted : Minted) (signal : Signal)
    {request : Http.Request} {route : Route} (hroute : Route.of? request.target.path = some route)
    (hallows : route.allows request.method) (hsize : route = .users → request.body.length ≤ Input.maxBody)
    (m : Moment) (s : σ) (looks : List (Look σ)) :
    let response? := ((service.respond minted signal request).attend m s looks).1.value?.map Outcome.answer
    (∀ r, response? = some r → 400 ≤ r.status → r.IsJsonError request.method) ∧
    (route.Misread request → ∃ r, response? = some r ∧ r.status = 400) ∧
    ∀ timeout store, (((onStore timeout).respond minted signal request).start m store).1.value?.isSome := by
  intro response?
  have htask := respond_eq service minted signal request hroute hallows
  refine ⟨?_, ?_, ?_⟩
  · have halways : (service.respond minted signal request).Always (RefusesInJson request.method) := by
      have hperform := always_perform service minted signal hsize request.method
      rw [htask]
      split
      · next hhead => exact hperform.map fun o ho hstatus => ⟨(ho hstatus).1, fun hne => absurd hhead hne⟩
      · exact hperform
    have hattend := halways.attend m s looks
    intro r hr hstatus
    obtain ⟨o, ho, rfl⟩ := Option.map_eq_some_iff.mp hr
    generalize (service.respond minted signal request).attend m s looks = x at ho hattend
    obtain ⟨stop, s'⟩ := x
    cases stop with
    | finished o' =>
      cases ho
      exact hattend hstatus
    | waiting wake rest => cases ho
  · intro hmis
    obtain ⟨r, hr, hperform⟩ := perform_of_misread service minted signal hsize hmis
    have hsettled : ∃ o : Outcome Http.Response, service.respond minted signal request = .settled o ∧
        o.answer.status = 400 := by
      rw [htask, hperform]
      split
      · exact ⟨_, rfl, r.status_response.trans hr⟩
      · exact ⟨_, rfl, r.status_response.trans hr⟩
    obtain ⟨o, ho, hstatus⟩ := hsettled
    refine ⟨o.answer, ?_, hstatus⟩
    change ((service.respond minted signal request).attend m s looks).1.value?.map Outcome.answer = some o.answer
    rw [ho, Task.attend_settled]
    rfl
  · intro timeout store
    obtain ⟨r, s', ⟨events, hends⟩, -⟩ := answers_respond timeout minted signal request m store
    rw [hends]
    rfl

namespace Exchange

def posting (path : String) (body : List UInt8) : Http.Request := { (post path "").request with body }

def overlong : List UInt8 := List.replicate (Input.maxBody - 1) 0x20 ++ Utf8.encode "\x7b\x7d"

def wordy : Http.Request where
  target.path := Utf8.encode "/users/67e55044-10b1-426f-9247-bb680e5fe0c8/history"
  target.query := some (Utf8.encode "page=1&pageSize=ten")

theorem wordy_page_size_refused :
    let response? := (((Service.onStore none).respond ⟨default, default, default⟩ ⟨0, none⟩ wordy).attend {} {}
      [⟨{}, .cancelled, id⟩]).1.value?.map Outcome.answer
    ∃ r, response? = some r ∧ r.status = 400 ∧ r.IsJsonError .get := by
  intro response?
  have hroute : Route.of? wordy.target.path =
      some (.history (Utf8.encode "67e55044-10b1-426f-9247-bb680e5fe0c8")) := by decide +kernel
  have hmis : (Route.history (Utf8.encode "67e55044-10b1-426f-9247-bb680e5fe0c8")).Misread wordy := by
    refine .inr ⟨"pageSize", by simp, fun hcount => ?_⟩
    have hvalues : Input.valuesOf "pageSize" (Http.formPairs (wordy.target.query.getD [])) = [Utf8.encode "ten"] := by
      decide +kernel
    rw [hvalues] at hcount
    have hword : (Text.unsigned? wordLimit ((Utf8.encode "ten").map fun b => Char.ofNat b.toNat)).toOption = none := by
      decide +kernel
    obtain ⟨n, hn⟩ := hcount.2 _ List.mem_cons_self
    rw [hn] at hword
    cases hword
  obtain ⟨hjson, hbad, -⟩ := refusals_are_json_errors (Service.onStore none) ⟨default, default, default⟩ ⟨0, none⟩
    hroute rfl (by simp) {} {} [⟨{}, .cancelled, id⟩]
  obtain ⟨r, hr, hstatus⟩ := hbad hmis
  exact ⟨r, hr, hstatus, hjson r hr (by omega)⟩

theorem overlong_user_refused_in_plain_text :
    let respond (path : String) := ((Service.onStore none).respond ⟨default, default, default⟩ ⟨0, none⟩
      (posting path overlong)).start {} {} |>.1.value?.map Outcome.answer
    respond "/users" = some ⟨413, some "text/plain; charset=utf-8", none,
      "Failed to buffer the request body: length limit exceeded"⟩ ∧
    respond "/users/67e55044-10b1-426f-9247-bb680e5fe0c8/add" = some (.json 400 (ErrorResponse.json
      ⟨"Failed to buffer the request body: length limit exceeded", "INVALID_BODY"⟩)) := by
  intro respond
  have hobject : (Utf8.encode "\x7b\x7d").length = 2 := by decide +kernel
  have hover : Input.isOversized overlong := by
    rw [Input.isOversized, overlong, List.length_append, List.length_replicate, hobject]
    decide
  have husers : Route.of? (Utf8.encode "/users") = some .users := by decide +kernel
  have hadd : Route.of? (Utf8.encode "/users/67e55044-10b1-426f-9247-bb680e5fe0c8/add") =
      some (.add (Utf8.encode "67e55044-10b1-426f-9247-bb680e5fe0c8")) := by decide +kernel
  have hid : Input.userId (Utf8.encode "67e55044-10b1-426f-9247-bb680e5fe0c8") = .ok owner := by decide +kernel
  have hjson : (some "application/json").any Http.MediaType.isJson := by decide +kernel
  have hrefuse : ∀ body path route r, Route.of? (Utf8.encode path) = some route → route.allows .post →
      (Service.onStore none).perform ⟨default, default, default⟩ ⟨0, none⟩ (posting path body) route =
        Service.refuse r →
      (Service.onStore none).respond ⟨default, default, default⟩ ⟨0, none⟩ (posting path body) = Service.refuse r := by
    intro body path route r hroute hallows hperform
    rw [respond_eq _ _ _ (posting path body) hroute hallows, if_neg (by simp [posting, post]), hperform]
  have husers' := hrefuse overlong _ _ _ husers rfl (perform_users_of_oversized _ _ _ hover)
  have hadd' := hrefuse overlong _ _ _ hadd rfl (perform_add_of_oversized _ _ _ hid hjson hover)
  simp only [respond, husers', hadd']
  exact ⟨rfl, rfl⟩

end Exchange

end Passbook
