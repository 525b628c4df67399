import Mathlib.Algebra.BigOperators.Group.Finset.Basic
import Mathlib.Data.Finmap
import Passbook.Proofs.Amount.Normal
import Passbook.Proofs.Manager.Room

/-! The ideal ledger: a finite map from users to finite sets of transactions, with exact sums. The ledger on a store
with room for all that is submitted gives the same answers. -/

namespace Passbook

open Amount Transaction

abbrev Ideal := Finmap fun _ : UserId => Finset Transaction

namespace Ideal

inductive Answer where
  | user (result : Except LedgerError (UserId × Rat))
  | transaction (result : Except LedgerError Transaction)
  | balance (result : Except LedgerError Rat)
  | history (result : Except LedgerError (List Transaction))

noncomputable def sorted (ts : Finset Transaction) : List Transaction :=
  ts.toList.mergeSort fun s t => (s.historyOrder t).isLE

def page (number size : Nat) (ts : List Transaction) : List Transaction :=
  (ts.drop (min ((number - 1) * size) (wordLimit - 1))).take size

def Taken (l : Ideal) (id : TransactionId) : Prop := ∃ user ts, l.lookup user = some ts ∧ ∃ t ∈ ts, t.id = id

open Classical in
noncomputable def respond (l : Ideal) : Request → Answer × Ideal
  | .createUser user =>
    match l.lookup user with
    | some _ => (.user (.error .userAlreadyExists), l)
    | none => (.user (.ok (user, 0)), l.insert user ∅)
  | .addTransaction t =>
    if t.amount.value ≤ 0 then (.transaction (.error .invalidTransaction), l)
    else match l.lookup t.userId with
      | none => (.transaction (.error .userNotFound), l)
      | some ts =>
        if l.Taken t.id then (.transaction (.error .transactionAlreadyExists), l)
        else (.transaction (.ok t), l.insert t.userId (insert t ts))
  | .balance user =>
    match l.lookup user with
    | none => (.balance (.error .userNotFound), l)
    | some ts => (.balance (.ok (∑ t ∈ ts, t.amount.value)), l)
  | .history user number size =>
    if number = 0 ∨ size = 0 then (.history (.error .invalidPagination), l)
    else match l.lookup user with
      | none => (.history (.error .userNotFound), l)
      | some ts => (.history (.ok (page number size (sorted ts))), l)

noncomputable def answers (l : Ideal) : List Request → List Answer
  | [] => []
  | r :: rs => (l.respond r).1 :: answers (l.respond r).2 rs

end Ideal

def Answer.exact : Answer → Ideal.Answer
  | .user r => .user (r.map fun u => (u.id, u.balance.value))
  | .transaction r => .transaction r
  | .balance r => .balance (r.map Amount.value)
  | .history r => .history r

namespace Ideal

section Pages

lemma sorted_toFinset {ts : List Transaction} (hs : Sorted ts) : sorted ts.toFinset = ts :=
  hs.mergeSort_eq (List.toFinset_toList hs.nodup)

lemma page_eq_select {number size : Nat} {p : Page} (hp : Page.of? number size = some p) (ts : List Transaction) :
    page number size ts = p.select ts := by
  unfold Page.of? at hp
  split at hp
  · cases hp
    rfl
  · cases hp

lemma getElem?_page (number size : Nat) {ts : List Transaction} (hlt : ts.length < wordLimit) (i : Nat) :
    (page number size ts)[i]? = if i < size then ts[(number - 1) * size + i]? else none := by
  rw [page, List.getElem?_take, List.getElem?_drop]
  split
  · rcases Nat.le_total ((number - 1) * size) (wordLimit - 1) with h | h
    · rw [Nat.min_eq_left h]
    · rw [Nat.min_eq_right h, List.getElem?_eq_none (by omega), List.getElem?_eq_none (by omega)]
  · rfl

end Pages

structure Mirrors (l : Ideal) (s : Store) : Prop where
  sound : s.Sound
  lookup user : l.lookup user = (s.account? user).map fun a => a.history.toFinset

namespace Mirrors

variable {l : Ideal} {s : Store}

lemma empty : Mirrors ∅ {} where
  sound := Store.sound_served []
  lookup user := by simp [Store.account?]

lemma lookup_none (h : Mirrors l s) {user : UserId} (hreg : ¬ s.isRegistered user) : l.lookup user = none := by
  rw [h.lookup, Option.map_eq_none_iff]
  simpa [Store.isRegistered] using hreg

lemma lookup_some (h : Mirrors l s) {user : UserId} (hreg : s.isRegistered user) :
    l.lookup user = some (s.history user).toFinset := by
  obtain ⟨a, ha⟩ := Option.isSome_iff_exists.mp hreg
  rw [h.lookup, ha, Store.history_of_account? ha, Option.map_some]

lemma taken_iff (h : Mirrors l s) {id : TransactionId} : l.Taken id ↔ s.isRecorded id := by
  rw [h.sound.isRecorded_iff_history]
  constructor
  · rintro ⟨user, ts, hts, t, ht, hid⟩
    rw [h.lookup] at hts
    obtain ⟨a, ha, rfl⟩ := Option.map_eq_some_iff.mp hts
    refine ⟨user, t, ?_, hid⟩
    rw [Store.history_of_account? ha]
    exact List.mem_toFinset.mp ht
  · rintro ⟨user, t, ht, hid⟩
    obtain ⟨a, ha, rfl, -⟩ := Store.mem_history ht
    have hreg : s.isRegistered a.owner := Store.isRegistered_iff.mpr (List.mem_map_of_mem ha)
    exact ⟨_, _, h.lookup_some hreg, t, List.mem_toFinset.mpr ht, hid⟩

lemma register (h : Mirrors l s) {user : UserId} (hnew : ¬ s.isRegistered user) :
    Mirrors (l.insert user ∅) (s.register user) where
  sound := h.sound.register hnew
  lookup other := by
    rw [Store.account?_register_eq]
    by_cases hu : other = user
    · subst hu
      have hnone : s.account? other = none := by simpa [Store.isRegistered] using hnew
      simp [hnone]
    · rw [Finmap.lookup_insert_of_ne _ hu, h.lookup, if_neg (Ne.symm hu), Option.or_none]

lemma put (h : Mirrors l s) {t : Transaction} (hs : (s.put t).Sound) (hreg : s.isRegistered t.userId) :
    Mirrors (l.insert t.userId (insert t (s.history t.userId).toFinset)) (s.put t) where
  sound := hs
  lookup user := by
    by_cases hu : user = t.userId
    · subst hu
      obtain ⟨a, ha⟩ := Option.isSome_iff_exists.mp hreg
      rw [Finmap.lookup_insert, Store.account?_put_self ha, Store.history_of_account? ha, Option.map_some,
        List.toFinset_eq_of_perm _ _ (a.perm_insert t), List.toFinset_cons]
    · rw [Finmap.lookup_insert_of_ne _ hu, h.lookup]
      cases ha : s.account? user with
      | some a => rw [Store.account?_put_of_ne ha (Ne.symm hu)]
      | none => simp [Store.account?_put, ha]

end Mirrors

section Steps

variable {l : Ideal} {s : Store} {ts : List Transaction}

def Agrees (x : Answer × Ideal) (y : Passbook.Answer × Store) : Prop := x.1 = y.1.exact ∧ Mirrors x.2 y.2

namespace Mirrors

lemma createUser (h : Mirrors l s) (user : UserId) :
    Agrees (l.respond (.createUser user)) ((Request.createUser user).settle none s) := by
  by_cases hreg : s.isRegistered user
  · simp only [respond, h.lookup_some hreg, Request.settle, Ledger.createUser_of_registered hreg]
    exact ⟨rfl, h⟩
  · simp only [respond, h.lookup_none hreg, Request.settle, Ledger.createUser_of_new hreg]
    refine ⟨?_, h.register hreg⟩
    simp [Answer.exact, Except.map, value_zero]

lemma addTransaction (h : Mirrors l s) {t : Transaction} (hv : t.isValid) (hroom : s.HasRoom t.userId (t :: ts)) :
    Agrees (l.respond (.addTransaction t)) ((Request.addTransaction t).settle none s) := by
  have hpos : ¬ t.amount.value ≤ 0 := not_le.mpr (isPositive_iff.mp hv)
  by_cases hreg : s.isRegistered t.userId
  · have href := hroom.refusal?_eq hreg
    by_cases hrec : s.isRecorded t.id
    · rw [if_pos hrec] at href
      simp only [respond, if_neg hpos, h.lookup_some hreg, if_pos (h.taken_iff.mpr hrec), Request.settle,
        Ledger.addTransaction_of_refused hv href]
      exact ⟨rfl, h⟩
    · rw [if_neg hrec] at href
      simp only [respond, if_neg hpos, h.lookup_some hreg, if_neg (h.taken_iff.not.mpr hrec), Request.settle,
        Ledger.addTransaction_of_accepted hv href]
      exact ⟨rfl, h.put (h.sound.put hv href) hreg⟩
  · simp only [respond, if_neg hpos, h.lookup_none hreg, Request.settle,
      Ledger.addTransaction_of_refused hv (Store.refusal?_of_unregistered hreg)]
    exact ⟨rfl, h⟩

lemma addTransaction_invalid (h : Mirrors l s) {t : Transaction} (hv : ¬ t.isValid) :
    Agrees (l.respond (.addTransaction t)) ((Request.addTransaction t).settle none s) := by
  have hpos : t.amount.value ≤ 0 := not_lt.mp (isPositive_iff.not.mp hv)
  simp only [respond, if_pos hpos, Request.settle, Ledger.addTransaction_of_invalid hv]
  exact ⟨rfl, h⟩

lemma balance (h : Mirrors l s) (user : UserId) (hroom : s.HasRoom user ts) :
    Agrees (l.respond (.balance user)) ((Request.balance user).settle none s) := by
  by_cases hreg : s.isRegistered user
  · obtain ⟨b, hfind, hb⟩ := hroom.find_eq hreg
    simp only [respond, h.lookup_some hreg, Request.settle, Ledger.balance, Ledger.interruptible, hfind]
    refine ⟨?_, h⟩
    rw [List.sum_toFinset _ (h.sound.history_nodup user)]
    simp [Answer.exact, Except.map, Except.mapError, hb, exactSum, Store.amounts, Function.comp_def]
  · simp only [respond, h.lookup_none hreg, Request.settle, Ledger.balance, Ledger.interruptible,
      Store.find_of_unregistered hreg]
    exact ⟨rfl, h⟩

lemma history (h : Mirrors l s) (user : UserId) (number size : Nat) (hroom : s.HasRoom user ts) :
    Agrees (l.respond (.history user number size)) ((Request.history user number size).settle none s) := by
  cases hp : Page.of? number size with
  | none =>
    have hbad : number = 0 ∨ size = 0 := by
      unfold Page.of? at hp
      split at hp
      · cases hp
      · omega
    simp only [respond, if_pos hbad, Request.settle, Ledger.history, hp]
    exact ⟨rfl, h⟩
  | some p =>
    have hgood : ¬ (number = 0 ∨ size = 0) := by
      unfold Page.of? at hp
      split at hp
      · omega
      · cases hp
    by_cases hreg : s.isRegistered user
    · obtain ⟨b, hfind, -⟩ := hroom.find_eq hreg
      simp only [respond, if_neg hgood, h.lookup_some hreg, Request.settle, Ledger.history, hp, Ledger.interruptible,
        hfind, Store.page_of_registered hreg]
      refine ⟨?_, h⟩
      rw [sorted_toFinset (h.sound.sorted_history user), page_eq_select hp]
      rfl
    · simp only [respond, if_neg hgood, h.lookup_none hreg, Request.settle, Ledger.history, hp, Ledger.interruptible,
        Store.find_of_unregistered hreg]
      exact ⟨rfl, h⟩

lemma step (h : Mirrors l s) (r : Request) (hroom : ∀ user, s.HasRoom user (r.deposit?.toList ++ ts)) :
    Agrees (l.respond r) (r.settle none s) := by
  cases r with
  | createUser user => exact h.createUser user
  | addTransaction t =>
    by_cases hv : t.isValid
    · have hdep : (Request.addTransaction t).deposit? = some t := if_pos hv
      rw [hdep] at hroom
      exact h.addTransaction hv (hroom t.userId)
    · exact h.addTransaction_invalid hv
  | balance user => exact h.balance user (hroom user)
  | history user number size => exact h.history user number size (hroom user)

end Mirrors

lemma Mirrors.answers (h : Mirrors l s) {visits : List Visit} (hroom : ∀ user, s.HasRoom user (submitted visits))
    (hun : ∀ v ∈ visits, v.IsUnfired) :
    (s.answers visits).map (Option.map Answer.exact) = (l.answers (visits.map Visit.request)).map some := by
  induction visits generalizing l s with
  | nil => rfl
  | cons v visits ih =>
    obtain ⟨hv, hun⟩ := List.forall_mem_cons.mp hun
    rw [submitted_cons] at hroom
    have hv : v.signal.check v.moment = none := hv
    obtain ⟨hanswer, hmirrors⟩ := h.step v.request hroom
    have hrest := ih hmirrors (fun user => (hroom user).settle none) hun
    simp only [Store.answers, Ideal.answers, List.map_cons, Visit.answer?_eq, Visit.after_eq, hv, Option.map_some,
      hanswer, hrest]

end Steps

section Refusals

def Answer.error? : Answer → Option LedgerError
  | .user (.error e) | .transaction (.error e) | .balance (.error e) | .history (.error e) => some e
  | _ => none

lemma error?_exact (a : Passbook.Answer) : a.exact.error? = a.error? := by
  cases a with
  | user r => cases r <;> rfl
  | transaction r => cases r <;> rfl
  | balance r => cases r <;> rfl
  | history r => cases r <;> rfl

lemma respond_ne_storage (l : Ideal) (r : Request) (cause : StoreError) :
    (l.respond r).1.error? ≠ some (.storage cause) := by
  cases r with
  | createUser user =>
    rw [respond]
    split <;> simp [Answer.error?]
  | addTransaction t =>
    rw [respond]
    split
    · simp [Answer.error?]
    · split
      · simp [Answer.error?]
      · split <;> simp [Answer.error?]
  | balance user =>
    rw [respond]
    split <;> simp [Answer.error?]
  | history user number size =>
    rw [respond]
    split
    · simp [Answer.error?]
    · split <;> simp [Answer.error?]

lemma answers_ne_storage {l : Ideal} {rs : List Request} {a : Answer} (h : a ∈ l.answers rs) (cause : StoreError) :
    a.error? ≠ some (.storage cause) := by
  induction rs generalizing l with
  | nil => cases h
  | cons r rs ih =>
    rcases List.mem_cons.mp h with rfl | h
    · exact respond_ne_storage l r cause
    · exact ih h

end Refusals

end Ideal

/-- If the amounts submitted for each user fit together, the ledger on an empty store answers as the ideal ledger does,
in all it says, and the store never fails. The pages of a list shorter than the largest word follow each other. -/
theorem answers_eq_ideal (visits : List Visit) (hun : ∀ v ∈ visits, v.IsUnfired)
    (hfit : ∀ user, FitTogether (Store.amountsFor user (submitted visits))) :
    (Store.answers {} visits).map (Option.map Answer.exact) =
      (Ideal.answers ∅ (visits.map Visit.request)).map some ∧
    (∀ a, some a ∈ Store.answers {} visits → ∀ cause, a.error? ≠ some (.storage cause)) ∧
    ∀ number size ts, ts.length < wordLimit → ∀ i,
      (Ideal.page number size ts)[i]? = if i < size then ts[(number - 1) * size + i]? else none := by
  have hroom : ∀ user, Store.HasRoom {} user (submitted visits) := fun user =>
    .of_fitTogether (Store.sound_served []) (fun _ => isValid_of_submitted) (hfit user)
  have hsame := Ideal.Mirrors.empty.answers hroom hun
  refine ⟨hsame, ?_, ?_⟩
  · intro a ha cause
    have hmem : some a.exact ∈ (Ideal.answers ∅ (visits.map Visit.request)).map some := by
      rw [← hsame]
      exact List.mem_map_of_mem ha
    obtain ⟨x, hx, hxa⟩ := List.mem_map.mp hmem
    rw [← Ideal.error?_exact, ← Option.some.inj hxa]
    exact Ideal.answers_ne_storage hx cause
  · intro number size ts hlt i
    exact Ideal.getElem?_page number size hlt i

def backdated : List Visit := [
  { request := .createUser default },
  { request := .addTransaction (.ofNumbers 1 20 25 1) },
  { request := .addTransaction (.ofNumbers 2 10 1 0) },
  { request := .addTransaction (.ofNumbers 1 30 7 0) },
  { request := .balance default },
  { request := .history default 2 1 }]

theorem ideal_answers_backdated :
    (Ideal.answers ∅ (backdated.map Visit.request)).map some = [
      some (.user (.ok (default, 0))),
      some (.transaction (.ok (.ofNumbers 1 20 25 1))),
      some (.transaction (.ok (.ofNumbers 2 10 1 0))),
      some (.transaction (.error .transactionAlreadyExists)),
      some (.balance (.ok (7 / 2))),
      some (.history (.ok [.ofNumbers 1 20 25 1]))] := by
  have hun : ∀ v ∈ backdated, v.IsUnfired := by
    simp [backdated, Visit.IsUnfired, Signal.check, Signal.isCancelled, Signal.isExpired]
  have hfit : ∀ user, FitTogether (Store.amountsFor user (submitted backdated)) := by
    intro user
    by_cases hu : user = default
    · subst hu
      unfold FitTogether
      decide +kernel
    · have hmine : ∀ t ∈ submitted backdated, t.userId = default := by decide
      rw [Store.amountsFor_of_ne fun t ht => hmine t ht ▸ Ne.symm hu]
      unfold FitTogether
      decide +kernel
  have hanswers : Store.answers {} backdated = [
      some (.user (.ok ⟨default, Amount.zero⟩)),
      some (.transaction (.ok (.ofNumbers 1 20 25 1))),
      some (.transaction (.ok (.ofNumbers 2 10 1 0))),
      some (.transaction (.error .transactionAlreadyExists)),
      some (.balance (.ok ((Amount.of? 35 1).getD default))),
      some (.history (.ok [.ofNumbers 1 20 25 1]))] := rfl
  have hzero : Amount.zero.value = 0 := value_zero
  have hbalance : ((Amount.of? 35 1).getD default).value = 7 / 2 := by decide +kernel
  rw [← (answers_eq_ideal backdated hun hfit).1, hanswers]
  simp [Answer.exact, Except.map, hzero, hbalance]

end Passbook
