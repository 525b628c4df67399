import Passbook.Proofs.Amount.Sending
import Passbook.Proofs.Json.Records
import Passbook.Proofs.Service.Reachable
import Passbook.Proofs.Wire.Basic

/-! Deposits that are sent again as a response shows them. What is printed of an amount and of a key is read as that
amount and that key, so the deposit is the one that was shown, and is refused. -/

namespace Passbook

namespace AddTransactionRequest

open Json

variable {sent : SentAmount} {key : IdempotencyKey} {room : Nat} {d : Draft}

lemma readsBack_key (key : IdempotencyKey) :
    ReadsBack (optional Wire.idempotencyKey) room (some key) [.text (some key.uuid.text)] := by
  intro ts
  have hkey : Wire.idempotencyKey room (.text (some key.uuid.text) :: ts) = .ok (key, ts) :=
    Wire.readsBack_idempotencyKey key ts
  simp [Json.optional, hkey, Except.map]

lemma fills_amount {members : List (String × List Token)} {d' : Draft} (hset : d.amount = none)
    (h : record.Fills room { d with amount := some sent } members d') :
    record.Fills room d (("amount", [sent.token]) :: members) d' :=
  Record.Fills.read rfl hset (sent.decode_token room) h

lemma fills_key {members : List (String × List Token)} {d' : Draft} (hset : d.idempotencyKey = none)
    (h : record.Fills room { d with idempotencyKey := some (some key) } members d') :
    record.Fills room d (("idempotency_key", [.text (some key.uuid.text)]) :: members) d' :=
  Record.Fills.read rfl hset (readsBack_key key) h

def shownMembers (sent : SentAmount) (key : IdempotencyKey) : List (List (String × List Token)) :=
  [[("amount", [sent.token]), ("idempotency_key", [.text (some key.uuid.text)])],
    [("idempotency_key", [.text (some key.uuid.text)]), ("amount", [sent.token])]]

lemma tokens_shown {a : Amount} (h : SentAmount.Shows a sent) (key : IdempotencyKey) :
    tokens (Utf8.encode (renderObject [("amount", sent.json), ("idempotency_key", renderText key.uuid.text)])) =
      objectTokens [("amount", [sent.token]), ("idempotency_key", [.text (some key.uuid.text)])] := by
  have hkey := lexes_renderText key.uuid.text
  cases h with
  | number => exact (lexes_renderObject_number a.isNumber_text hkey).tokens_eq
  | @text before after =>
    have hamount := lexes_renderText (String.ofList (before ++ a.render ++ after))
    have hmembers : List.Forall₂ (fun m w => m.1 = w.1 ∧ Lexes m.2 w.2)
        [("amount", renderText (String.ofList (before ++ a.render ++ after))),
          ("idempotency_key", renderText key.uuid.text)]
        [("amount", [.text (some (String.ofList (before ++ a.render ++ after)))]),
          ("idempotency_key", [.text (some key.uuid.text)])] := .cons ⟨rfl, hamount⟩ (.cons ⟨rfl, hkey⟩ .nil)
    exact (lexes_renderObject hmembers).tokens_eq

lemma decodeAll_of_shown {bytes : List UInt8} {members : List (String × List Token)}
    (hmembers : members ∈ shownMembers sent key) (h : tokens bytes = objectTokens members) :
    decodeAll decode bytes = .ok ⟨none, sent, some key, none⟩ := by
  have hfills : ∃ m ms, members = m :: ms ∧
      record.Fills 126 record.start (m :: ms) { amount := some sent, idempotencyKey := some (some key) } := by
    rcases List.mem_pair.mp hmembers with rfl | rfl
    · exact ⟨_, _, rfl, fills_amount rfl (fills_key rfl .nil)⟩
    · exact ⟨_, _, rfl, fills_key rfl (fills_amount rfl .nil)⟩
  obtain ⟨m, ms, rfl, hfills⟩ := hfills
  have hdecode := Record.decode_of_fills hfills []
  rw [List.append_nil] at hdecode
  rw [decodeAll, h, maxNesting, decode, hdecode]
  rfl

end AddTransactionRequest

namespace Exchange

open AddTransactionRequest

structure Resubmits (x : Exchange) (t : Transaction) : Prop where
  isPost : x.request.method = .post
  isAdd : ∃ id, Route.of? x.request.target.path = some (.add id) ∧ Input.userId id = .ok t.userId
  isJson : x.request.contentType.any Http.MediaType.isJson
  fits : ¬ Input.isOversized x.request.body
  body : ∃ sent, SentAmount.Shows t.amount sent ∧ ∃ members ∈ shownMembers sent t.idempotencyKey,
    Json.tokens x.request.body = Json.objectTokens members

lemma Resubmits.of_body {x : Exchange} {t : Transaction} {sent : SentAmount} (hpost : x.request.method = .post)
    (hadd : ∃ id, Route.of? x.request.target.path = some (.add id) ∧ Input.userId id = .ok t.userId)
    (hjson : x.request.contentType.any Http.MediaType.isJson) (hfits : ¬ Input.isOversized x.request.body)
    (hsent : SentAmount.Shows t.amount sent) (hbody : x.request.body = Utf8.encode (Json.renderObject
      [("amount", sent.json), ("idempotency_key", Json.renderText t.idempotencyKey.uuid.text)])) : x.Resubmits t := by
  refine ⟨hpost, hadd, hjson, hfits, sent, hsent, _, List.mem_cons_self, ?_⟩
  rw [hbody]
  exact tokens_shown hsent _

lemma Resubmits.adds {x : Exchange} {t : Transaction} (h : x.Resubmits t) :
    x.Adds t.userId t.idempotencyKey t.amount := by
  obtain ⟨id, hroute, hid⟩ := h.isAdd
  obtain ⟨sent, hsent, members, hmembers, htokens⟩ := h.body
  refine ⟨h.isPost, id, ⟨none, sent, some t.idempotencyKey, none⟩, hroute, hid, ?_, .inl rfl, rfl, hsent.amount?_eq⟩
  rw [Input.deposit, decodeAll_of_shown hmembers htokens, if_neg (by simp [h.isJson]), if_neg h.fits]
  rfl

end Exchange

namespace Store

variable {timeout : Option Nat} {s : Store} {t : Transaction}

def RefusesAgain (timeout : Option Nat) (s : Store) (t : Transaction) : Prop :=
  ∀ later, s.Reaches timeout later → ∀ x : Exchange, x.Resubmits t →
    (∃ id u, Service.deposit x.minted id x.request = .ok u ∧ u.id = t.id ∧ u.amount = t.amount) ∧
    x.response? timeout later =
      some (if x.isLate timeout then Exchange.lateResponse else Exchange.conflictResponse) ∧
    x.after timeout later = later

lemma Genuine.refusesAgain (hs : s.Genuine) (ht : t ∈ s.index) : s.RefusesAgain timeout t := by
  intro later hlater x hx
  have hreg : s.isRegistered t.userId :=
    isRegistered_of_mem_history (hs.mem_history_iff.mpr ⟨ht, rfl⟩)
  have hrec : s.isRecorded (.derive t.idempotencyKey t.userId t.amount) := by
    rw [← hs.derived t ht]
    exact isRecorded_iff.mpr (List.mem_map_of_mem ht)
  obtain ⟨-, id, createdAt, -, hdeposit⟩ := hx.adds.deposit_eq
  refine ⟨⟨id, _, hdeposit, (hs.derived t ht).symm, rfl⟩, ?_⟩
  exact hx.adds.refused_of_recorded (hs.positive t ht) (hlater.keptIn.isRegistered _ hreg)
    (hlater.keptIn.isRecorded hrec)

end Store

namespace Exchange

variable {timeout : Option Nat} {x : Exchange} {s : Store} {id : List UInt8} {r : Http.Response}

lemma exists_page_of_ok (hget : x.request.method = .get)
    (hroute : Route.of? x.request.target.path = some (.history id)) (hr : x.response? timeout s = some r)
    (hstatus : r.status = 200) :
    ∃ user number size p, Service.historyPage id x.request.target.query = .ok (user, number, size) ∧
      Page.of? number size = some p ∧ r = .json 200 (historyJson (p.select (s.history user))) ∧
      x.after timeout s = s := by
  have htask : x.task timeout = Service.proceed (Service.historyPage id x.request.target.query) fun q =>
      (Manager.history Store.repository q.1 q.2.1 q.2.2).task (x.signal timeout) (Service.answer 200 historyJson) := by
    simp only [task, Service.respond, hroute, hget, Route.allows, Service.perform, Service.onStore]
    rfl
  cases hpage : Service.historyPage id x.request.target.query with
  | error refusal =>
    rw [hpage] at htask
    have hends : (x.task timeout).Ends { now := x.look } s refusal.response s := htask ▸ Task.ends_settled _
    rw [(of_ends hends).1] at hr
    cases hr
    exact absurd hstatus (refusal.status_ne (by decide))
  | ok q =>
    rw [hpage] at htask
    obtain ⟨user, number, size⟩ := q
    have hends := Ledger.ends_history (x.signal timeout) { now := x.look } s (Service.answer 200 historyJson) user
      number size
    have hcall : x.task timeout = (Manager.history Store.repository user number size).task (x.signal timeout)
        (Service.answer 200 historyJson) := htask
    rw [Ledger.history_snd, ← hcall] at hends
    obtain ⟨hresponse, hafter⟩ := of_ends hends
    rw [hresponse] at hr
    cases hr
    cases hresult : (Ledger.history ((x.signal timeout).check { now := x.look }) user number size s).1 with
    | error e =>
      rw [hresult] at hstatus
      exact absurd hstatus ((Refusal.ledger e).status_ne (by decide))
    | ok ts =>
      obtain ⟨p, hp, rfl⟩ := Ledger.exists_page_of_ok hresult
      exact ⟨user, number, size, p, rfl, hp, rfl, hafter⟩

lemma exists_history_of_ok (hget : x.request.method = .get)
    (hroute : Route.of? x.request.target.path = some (.history id)) (hr : x.response? timeout s = some r)
    (hstatus : r.status = 200) : ∃ user ts, Input.userId id = .ok user ∧ r = .json 200 (historyJson ts) ∧
      (∀ t ∈ ts, t ∈ s.history user) ∧ x.after timeout s = s := by
  obtain ⟨user, number, size, p, hpage, -, hbody, hafter⟩ := exists_page_of_ok hget hroute hr hstatus
  obtain ⟨user', huser, hquery⟩ := exists_of_bind_ok hpage
  obtain ⟨query, -, hq⟩ := exists_of_bind_ok hquery
  cases hq
  exact ⟨user, _, huser, hbody, fun t ht => List.mem_of_mem_drop (List.mem_of_mem_take ht), hafter⟩

end Exchange

open Store in
/-- The text of an amount, as a number or as a text with white space around it, is read as the amount with all of its
scale. So what a response shows of a record, be it new or on a page of the history, makes no second one: sent again to
the same user, it is refused as a conflict, unless it comes too late to be looked at. -/
theorem printed_amounts_read_back (timeout : Option Nat) {s : Store} (hs : Reaches timeout {} s) (x : Exchange) :
    (∀ (a : Amount) (before after : List Char), before.all Text.isSpace → after.all Text.isSpace →
      let quoted := Json.renderText (String.ofList (before ++ a.render ++ after))
      (∃ sent, Json.decodeAll SentAmount.decode (Utf8.encode quoted) = .ok sent ∧ sent.amount? = some a) ∧
      ∃ sent, Json.decodeAll SentAmount.decode (Utf8.encode a.text) = .ok sent ∧ sent.amount? = some a) ∧
    (∀ id r, Route.of? x.request.target.path = some (.add id) → x.response? timeout s = some r → r.status = 201 →
      ∃ t ∈ (x.after timeout s).index, Input.userId id = .ok t.userId ∧
        r = .json 201 (AddTransactionResponse.json ⟨Service.addedMessage, t⟩) ∧
        (x.after timeout s).RefusesAgain timeout t) ∧
    ∀ id r, x.request.method = .get → Route.of? x.request.target.path = some (.history id) →
      x.response? timeout s = some r → r.status = 200 →
      ∃ ts, r = .json 200 (historyJson ts) ∧ ∀ t ∈ ts, t ∈ (x.after timeout s).index ∧
        Input.userId id = .ok t.userId ∧ (x.after timeout s).RefusesAgain timeout t := by
  have hgenuine := hs.genuine Genuine.empty
  refine ⟨?_, ?_, ?_⟩
  · intro a before after hbefore hafter quoted
    refine ⟨⟨_, SentAmount.decodeAll_of_tokens_eq (.text _) (Json.lexes_renderText _).tokens_eq,
      (SentAmount.Shows.text hbefore hafter).amount?_eq⟩, ?_⟩
    exact ⟨_, SentAmount.decodeAll_of_tokens_eq (.number _) a.isNumber_text.tokens_eq,
      SentAmount.Shows.number.amount?_eq⟩
  · intro id r hroute hr hstatus
    obtain ⟨r', hr', heffect⟩ := x.exists_effect timeout s
    obtain rfl : r' = r := Option.some.inj (hr'.symm.trans hr)
    have hafter := hgenuine.effect heffect
    generalize x.after timeout s = s' at heffect hafter
    cases heffect with
    | kept h => exact absurd hstatus h
    | registered _ husers _ _ =>
      rw [hroute] at husers
      cases husers
    | @recorded id' t _ hroute' ht _ _ =>
      obtain rfl : id = id' := by
        rw [hroute] at hroute'
        cases hroute'
        rfl
      have hindex : t ∈ (s.put t).index := List.mem_append_right _ (List.mem_singleton.mpr rfl)
      exact ⟨t, hindex, (Exchange.deposit_eq_ok ht).1, rfl, hafter.refusesAgain hindex⟩
  · intro id r hget hroute hr hstatus
    obtain ⟨user, ts, huser, hbody, hhistory, hafter⟩ := Exchange.exists_history_of_ok hget hroute hr hstatus
    refine ⟨ts, hbody, fun t ht => ?_⟩
    obtain ⟨hindex, rfl⟩ := hgenuine.mem_history_iff.mp (hhistory t ht)
    rw [hafter]
    exact ⟨hindex, huser, hgenuine.refusesAgain hindex⟩

namespace Exchange

def shownAgain : Exchange :=
  post "/users/67e55044-10b1-426f-9247-bb680e5fe0c8/add"
    "\x7b\"amount\":2.50,\"idempotency_key\":\"0d7f5d8e-3a55-4c35-9d8e-0c2b5f5e3c11\"\x7d"

theorem shown_deposit_refused :
    let later := unkeyed.after none (plain.after none (opening.after none {}))
    shownAgain.response? none later = some conflictResponse ∧ shownAgain.after none later = later := by
  intro later
  obtain ⟨-, hadd, -⟩ := printed_amounts_read_back none (.exchange opening .refl) plain
  have hcreated : (plain.response? none (opening.after none {})).map Http.Response.status = some 201 := by
    decide +kernel
  obtain ⟨r, hr, hstatus⟩ := Option.map_eq_some_iff.mp hcreated
  obtain ⟨t, ht, huser, -, hrefuses⟩ := hadd (Utf8.encode "67e55044-10b1-426f-9247-bb680e5fe0c8") r (by decide +kernel)
    hr hstatus
  have hshown : ∀ t ∈ (plain.after none (opening.after none {})).index,
      t.idempotencyKey = ownerKey ∧ t.amount = (Amount.of? 250 2).getD default := by
    decide +kernel
  obtain ⟨hkey, hamount⟩ := hshown t ht
  have hagain : shownAgain.Resubmits t := by
    refine .of_body rfl ⟨_, by decide +kernel, huser⟩ (by decide +kernel) (by decide +kernel) .number ?_
    rw [hkey, hamount]
    decide +kernel
  exact (hrefuses later (.exchange unkeyed .refl) shownAgain hagain).2

end Exchange

end Passbook
