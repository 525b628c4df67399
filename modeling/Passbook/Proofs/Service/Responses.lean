import Passbook.Proofs.Service.Retry
import Passbook.Proofs.Traffic.AllOrNothing

/-! What a response of the service says of its store. A request that is not refused as it stands is one call of the
ledger, shown as a response, and the response is 201 just when the call has written. -/

namespace Passbook

open Work

lemma Call.task_map {σ α β γ : Type} (call : Call σ α) (signal : Signal) (answer : Except LedgerError α → β) (g : β → γ) :
    (call.task signal fun r => g (answer r)) = (call.task signal answer).map g := by
  cases call with
  | refused e => rfl
  | operation work report =>
    simp only [task, Task.under, Task.map, map_map]
    rfl

lemma Task.map_map {σ α β γ : Type} (task : Task σ α) (f : α → β) (g : β → γ) :
    (task.map f).map g = task.map fun a => g (f a) := by
  cases hg : task.guard <;> simp only [Task.map, hg, Work.map_map] <;> rfl

lemma Request.respects_settle {R : Store → Store → Prop} (hR : ∀ s, R s s) (req : Request)
    (h : ∀ s, R s (req.settle none s).2) (signal : Signal) :
    Respects id R (req.task Store.repository signal).work := by
  have honce := Traffic.once_complete (Repository.wraps_store fun _ => True) signal req
  cases req with
  | createUser user =>
    refine .of_once hR ?_ honce
    exact h
  | addTransaction t =>
    by_cases hv : t.isValid
    · refine .of_once hR ?_ honce
      intro s
      simpa [settle, Ledger.addTransaction, hv, Ledger.interruptible, complete] using h s
    · simp only [task, Manager.addTransaction, if_neg hv]
      exact .done
  | balance user => exact .of_once hR hR honce
  | history user page size => exact .of_once hR hR honce

lemma exists_of_bind_ok {ε α β : Type} {x : Except ε α} {f : α → Except ε β} {b : β} (h : x >>= f = .ok b) :
    ∃ a, x = .ok a ∧ f a = .ok b := by
  cases x with
  | ok a => exact ⟨a, rfl, h⟩
  | error e => cases h

namespace Service

def render : Answer → Http.Response
  | .user r => answer 201 (fun u => CreateUserResponse.json ⟨u.id⟩) r
  | .transaction r => answer 201 (fun t => AddTransactionResponse.json ⟨addedMessage, t⟩) r
  | .balance r => answer 200 (fun b => BalanceResponse.json ⟨b⟩) r
  | .history r => answer 200 historyJson r

lemma answer_ne_created {α : Type} (body : α → String) (r : Except LedgerError α) : (answer 200 body r).status ≠ 201 := by
  cases r with
  | ok a => simp [answer, Http.Response.json]
  | error e => exact Refusal.status_ne _ (by decide)

end Service

namespace Exchange

open Service

variable {timeout : Option Nat} {x : Exchange} {s : Store}

inductive Asks (x : Exchange) : Request → (Answer → Http.Response) → Prop
  | users {user : UserId} : x.request.method = .post → Route.of? x.request.target.path = some .users →
      newUser x.minted x.request.body = .ok user → Asks x (.createUser user) render
  | add {id : List UInt8} {t : Transaction} : x.request.method = .post →
      Route.of? x.request.target.path = some (.add id) → deposit x.minted id x.request = .ok t →
      Asks x (.addTransaction t) render
  | balance {user : UserId} {g : Http.Response → Http.Response} : (∀ r, (g r).status = r.status) →
      Asks x (.balance user) fun a => g (render a)
  | history {user : UserId} {page size : Nat} {g : Http.Response → Http.Response} : (∀ r, (g r).status = r.status) →
      Asks x (.history user page size) fun a => g (render a)

def IsRead (x : Exchange) (signal : Signal) (task : Task Store Http.Response) : Prop :=
  (∃ o, task = .settled o ∧ o.answer.status ≠ 201) ∨
    ∃ req g, x.Asks req g ∧ task = (req.task Store.repository signal).map g

lemma isRead_proceed {signal : Signal} {α : Type} {stages : Except Refusal α} {next : α → Task Store Http.Response}
    (h : ∀ a, stages = .ok a → x.IsRead signal (next a)) : x.IsRead signal (proceed stages next) := by
  cases hs : stages with
  | ok a => exact h a hs
  | error r => exact .inl ⟨_, rfl, r.status_ne (by decide)⟩

lemma isRead_query {signal : Signal} {α : Type} {stages : Except Refusal α} {next : α → Task Store Http.Response}
    (req : α → Request) (hnext : ∀ a, next a = ((req a).task Store.repository signal).map render)
    (hasks : ∀ a (g : Http.Response → Http.Response), (∀ r, (g r).status = r.status) →
      x.Asks (req a) fun b => g (render b)) :
    x.IsRead signal (if x.request.method = .head then (proceed stages next).map Http.Response.withoutBody
      else proceed stages next) := by
  by_cases hhead : x.request.method = .head
  · rw [if_pos hhead]
    cases stages with
    | error r => exact .inl ⟨_, rfl, r.status_ne (by decide)⟩
    | ok a =>
      refine .inr ⟨req a, _, hasks a Http.Response.withoutBody fun _ => rfl, ?_⟩
      rw [proceed, hnext, Task.map_map]
  · rw [if_neg hhead]
    exact isRead_proceed fun a _ => .inr ⟨req a, _, hasks a (fun r => r) fun _ => rfl, hnext a⟩

lemma isRead_perform {signal : Signal} {route : Route} (hroute : Route.of? x.request.target.path = some route)
    (hallows : route.allows x.request.method) : x.IsRead signal
      (if x.request.method = .head then
        ((onStore timeout).perform x.minted signal x.request route).map Http.Response.withoutBody
      else (onStore timeout).perform x.minted signal x.request route) := by
  cases route with
  | users =>
    have hpost : x.request.method = .post := beq_iff_eq.mp hallows
    rw [if_neg (by simp [hpost])]
    refine isRead_proceed fun user huser => .inr ⟨_, _, .users hpost hroute huser, ?_⟩
    exact Call.task_map _ signal Answer.user render
  | add id =>
    have hpost : x.request.method = .post := beq_iff_eq.mp hallows
    rw [if_neg (by simp [hpost])]
    refine isRead_proceed fun t ht => .inr ⟨_, _, .add hpost hroute ht, ?_⟩
    exact Call.task_map _ signal Answer.transaction render
  | balance id =>
    exact isRead_query Request.balance (fun user => Call.task_map _ signal Answer.balance render)
      fun _ _ hg => .balance hg
  | history id =>
    exact isRead_query (fun q => .history q.1 q.2.1 q.2.2)
      (fun q => Call.task_map _ signal Answer.history render) fun _ _ hg => .history hg

lemma isRead_task (timeout : Option Nat) (x : Exchange) : x.IsRead (x.signal timeout) (x.task timeout) := by
  unfold task respond
  cases hroute : Route.of? x.request.target.path with
  | none => exact .inl ⟨_, rfl, by simp⟩
  | some route =>
    by_cases hallows : route.allows x.request.method
    · simp only [if_pos hallows]
      exact isRead_perform hroute hallows
    · simp only [if_neg hallows]
      exact .inl ⟨_, rfl, by simp⟩

/-- All that a request can come to: nothing that is answered with 201, or a write that is told in the response. -/
inductive Effect (x : Exchange) (s : Store) : Http.Response → Store → Prop
  | kept {r : Http.Response} : r.status ≠ 201 → Effect x s r s
  | registered {user : UserId} : x.request.method = .post → Route.of? x.request.target.path = some .users →
      newUser x.minted x.request.body = .ok user → ¬ s.isRegistered user →
      Effect x s (.json 201 (CreateUserResponse.json ⟨user⟩)) (s.register user)
  | recorded {id : List UInt8} {t : Transaction} : x.request.method = .post →
      Route.of? x.request.target.path = some (.add id) → deposit x.minted id x.request = .ok t → t.isValid →
      s.refusal? t = none → Effect x s (.json 201 (AddTransactionResponse.json ⟨addedMessage, t⟩)) (s.put t)

lemma Asks.effect {req : Request} {g : Answer → Http.Response} (h : x.Asks req g) (fired : Option Interruption)
    (s : Store) : x.Effect s (g (req.settle fired s).1) (req.settle fired s).2 := by
  cases h with
  | @users user hpost hroute huser =>
    rcases Ledger.createUser_cases fired user s with ⟨e, hc⟩ | ⟨hnew, hc⟩ <;> simp only [Request.settle, hc]
    · exact .kept (Refusal.status_ne _ (by decide))
    · exact .registered hpost hroute huser hnew
  | @add id t hpost hroute ht =>
    rcases Ledger.addTransaction_cases fired t s with ⟨e, hc⟩ | ⟨hv, href, hc⟩ <;> simp only [Request.settle, hc]
    · exact .kept (Refusal.status_ne _ (by decide))
    · exact .recorded hpost hroute ht hv href
  | @balance user g hg =>
    have hs : ((Request.balance user).settle fired s).2 = s := Ledger.balance_snd fired user s
    rw [hs]
    refine .kept ?_
    rw [hg]
    exact answer_ne_created _ _
  | @history user page size g hg =>
    have hs : ((Request.history user page size).settle fired s).2 = s := Ledger.history_snd fired user page size s
    rw [hs]
    refine .kept ?_
    rw [hg]
    exact answer_ne_created _ _

lemma exists_effect (timeout : Option Nat) (x : Exchange) (s : Store) :
    ∃ r, x.response? timeout s = some r ∧ x.Effect s r (x.after timeout s) := by
  rcases x.isRead_task timeout with ⟨o, htask, hstatus⟩ | ⟨req, g, hasks, htask⟩
  · obtain ⟨hr, hs⟩ := of_ends (htask ▸ Task.ends_settled o : (x.task timeout).Ends { now := x.look } s o.answer s)
    exact ⟨_, hr, hs.symm ▸ .kept hstatus⟩
  · have hends := (req.ends_task (x.signal timeout) { now := x.look } s).map g
    obtain ⟨hr, hs⟩ := of_ends (htask.symm ▸ hends)
    exact ⟨_, hr, hs.symm ▸ hasks.effect _ s⟩

lemma respects_task {R : Store → Store → Prop} (timeout : Option Nat) (x : Exchange) (hrefl : ∀ s, R s s)
    (h : ∀ {s r s'}, x.Effect s r s' → R s s') : Respects id R (x.task timeout).work := by
  rcases x.isRead_task timeout with ⟨o, htask, -⟩ | ⟨req, g, hasks, htask⟩ <;> rw [htask]
  · exact .done
  · exact (Request.respects_settle hrefl req (fun s => h (hasks.effect none s)) _).map _

lemma deposit_eq_ok {minted : Minted} {id : List UInt8} {request : Http.Request} {t : Transaction}
    (h : deposit minted id request = .ok t) :
    Input.userId id = .ok t.userId ∧ t.id = .derive t.idempotencyKey t.userId t.amount := by
  obtain ⟨user, huser, h⟩ := exists_of_bind_ok h
  obtain ⟨body, -, h⟩ := exists_of_bind_ok h
  obtain ⟨-, -, h⟩ := exists_of_bind_ok h
  obtain ⟨amount, -, h⟩ := exists_of_bind_ok h
  cases h
  exact ⟨huser, rfl⟩

end Exchange

namespace Store

open Exchange

structure Genuine (s : Store) : Prop extends s.Consistent where
  positive : ∀ t ∈ s.index, 0 < t.amount.value
  derived : ∀ t ∈ s.index, t.id = .derive t.idempotencyKey t.userId t.amount

variable {timeout : Option Nat} {x : Exchange} {s s' : Store}

lemma Genuine.empty : Genuine {} := ⟨Consistent.empty, by simp, by simp⟩

lemma Genuine.effect (hs : s.Genuine) {r : Http.Response} (h : x.Effect s r s') : s'.Genuine := by
  cases h with
  | kept => exact hs
  | registered _ _ _ hnew => exact ⟨hs.toConsistent.register hnew, hs.positive, hs.derived⟩
  | @recorded id t _ _ ht hv href =>
    refine ⟨hs.toConsistent.put (isRegistered_of_refusal? href) (not_isRecorded_of_refusal? href), ?_, ?_⟩
    · intro u hu
      rcases List.mem_append.mp hu with hu | hu
      · exact hs.positive u hu
      · rw [List.mem_singleton.mp hu]
        exact Amount.isPositive_iff.mp hv
    · intro u hu
      rcases List.mem_append.mp hu with hu | hu
      · exact hs.derived u hu
      · rw [List.mem_singleton.mp hu]
        exact (deposit_eq_ok ht).2

lemma Genuine.exchange (hs : s.Genuine) (xs : List Exchange) : (s.exchange timeout xs).Genuine := by
  induction xs generalizing s with
  | nil => exact hs
  | cons x xs ih =>
    obtain ⟨r, -, heffect⟩ := x.exists_effect timeout s
    exact ih (hs.effect heffect)

lemma respects_exchange (timeout : Option Nat) (x : Exchange) :
    Respects id (fun s s' : Store => s.Genuine → s'.Genuine) (x.task timeout).work :=
  x.respects_task timeout (fun _ hs => hs) fun heffect hs => hs.effect heffect

end Store

open Store in
/-- In every state that requests lead to, however they overlap, a request changes the store only if it is answered with
201. It has then registered the user of the response, with no records, or put the one record of the response, for the
user of the path. Every record there has a positive amount and the identity that is made of it. -/
theorem responses_tell_the_truth {ι : Type} [DecidableEq ι] (timeout : Option Nat) (overlapping : ι → Exchange)
    (m : Moment) (turns : List (Turn ι)) (xs : List Exchange) (x : Exchange) :
    let s := ((Traffic.ofTasks (fun i => (overlapping i).task timeout) m {}).play turns).state.exchange timeout xs
    let s' := x.after timeout s
    (∃ r, x.response? timeout s = some r ∧ (r.status ≠ 201 → s' = s) ∧
      (r.status = 201 → x.request.method = .post ∧
        ((∃ user, Route.of? x.request.target.path = some .users ∧
          Service.newUser x.minted x.request.body = .ok user ∧
          r = .json 201 (CreateUserResponse.json ⟨user⟩) ∧ ¬ s.isRegistered user ∧
          s'.accounts = s.accounts ++ [⟨user, []⟩] ∧ s'.index = s.index) ∨
        ∃ id t, Route.of? x.request.target.path = some (.add id) ∧ Input.userId id = .ok t.userId ∧
          r = .json 201 (AddTransactionResponse.json ⟨Service.addedMessage, t⟩) ∧
          s'.accounts.map Account.owner = s.accounts.map Account.owner ∧ s'.index = s.index ++ [t] ∧
          s'.records.Perm (t :: s.records) ∧ (s'.history t.userId).Perm (t :: s.history t.userId) ∧
          ∀ user, user ≠ t.userId → s'.history user = s.history user))) ∧
    ∀ t ∈ s.records ++ s.index, 0 < t.amount.value ∧ t.id = .derive t.idempotencyKey t.userId t.amount := by
  intro s s'
  have hs : s.Genuine := by
    have hflights : ∀ i, ((Traffic.ofTasks (fun i => (overlapping i).task timeout) m {}).flights i).Meets
        (Respects id fun s s' : Store => s.Genuine → s'.Genuine) fun _ => True := by
      intro i
      exact ⟨respects_exchange timeout (overlapping i), fun _ _ _ _ => trivial⟩
    have hplay := (Traffic.respects_play (fun _ hs => hs) (fun h h' hs => h' (h hs)) hflights turns).1
    exact (hplay Genuine.empty).exchange xs
  refine ⟨?_, ?_⟩
  · obtain ⟨r, hr, heffect⟩ := x.exists_effect timeout s
    refine ⟨r, hr, ?_⟩
    change x.Effect s r s' at heffect
    clear_value s'
    cases heffect with
    | kept hstatus => exact ⟨fun _ => rfl, fun h => absurd h hstatus⟩
    | @registered user hpost hroute huser hnew =>
      exact ⟨fun h => absurd rfl h, fun _ => ⟨hpost, .inl ⟨user, hroute, huser, rfl, hnew, rfl, rfl⟩⟩⟩
    | @recorded id t hpost hroute ht hv href =>
      have hreg := isRegistered_of_refusal? href
      refine ⟨fun h => absurd rfl h, fun _ => ⟨hpost, .inr ⟨id, t, hroute, (Exchange.deposit_eq_ok ht).1, rfl, ?_⟩⟩⟩
      exact ⟨owners_put s t, rfl, records_put hs.toConsistent hreg, history_put_self hreg,
        fun user hne => history_put_of_ne hne.symm⟩
  · intro t ht
    have hmem : t ∈ s.index := by
      rcases List.mem_append.mp ht with ht | ht
      · exact hs.records_perm.mem_iff.mp ht
      · exact ht
    exact ⟨hs.positive t hmem, hs.derived t hmem⟩

end Passbook
