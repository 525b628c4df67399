import Mathlib.Data.Option.Basic
import Passbook.Proofs.Amount.Normal
import Passbook.Proofs.Manager.Room

/-! Deposits in another order. For each identity that is new the first deposit is recorded and the others are refused,
so if deposits of one identity are the same, the order in which they come cannot be seen afterwards. -/

namespace Passbook

open Amount Transaction

/-- Relations under which two records have one place in a history and one value. -/
structure Transaction.Likeness (R : Transaction → Transaction → Prop) : Prop where
  refl t : R t t
  id {t u} : R t u → t.id = u.id
  userId {t u} : R t u → t.userId = u.userId
  createdAt {t u} : R t u → t.createdAt = u.createdAt
  value {t u} : R t u → t.amount.value = u.amount.value

namespace Transaction

variable {R : Transaction → Transaction → Prop}

lemma same_iff {t u : Transaction} : t.same u ↔ t.id = u.id ∧ t.userId = u.userId ∧ t.amount.value = u.amount.value ∧
    t.createdAt = u.createdAt ∧ t.idempotencyKey = u.idempotencyKey := by
  simp [same, sameValue_iff, and_assoc]

lemma likeness_eq : Likeness Eq where
  refl _ := rfl
  id h := congrArg _ h
  userId h := congrArg _ h
  createdAt h := congrArg _ h
  value h := congrArg (fun t => t.amount.value) h

lemma likeness_same : Likeness fun t u => t.same u where
  refl _ := same_iff.mpr ⟨rfl, rfl, rfl, rfl, rfl⟩
  id h := (same_iff.mp h).1
  userId h := (same_iff.mp h).2.1
  value h := (same_iff.mp h).2.2.1
  createdAt h := (same_iff.mp h).2.2.2.1

namespace Likeness

lemma isBefore (hR : Likeness R) {t t' u u' : Transaction} (ht : R t t') (hu : R u u') :
    t.isBefore u = t'.isBefore u' := by
  rw [Transaction.isBefore, Transaction.isBefore, historyOrder, historyOrder, hR.createdAt ht, hR.createdAt hu,
    hR.id ht, hR.id hu]

lemma forall₂_of_sorted (hR : Likeness R) {ts us : List Transaction} (hts : Sorted ts) (hus : Sorted us)
    (hl : ∀ t ∈ ts, ∃ u ∈ us, R t u) (hr : ∀ u ∈ us, ∃ t ∈ ts, R t u) : List.Forall₂ R ts us := by
  induction ts generalizing us with
  | nil =>
    cases us with
    | nil => exact .nil
    | cons u us =>
      obtain ⟨t, ht, -⟩ := hr u List.mem_cons_self
      cases ht
  | cons t ts ih =>
    cases us with
    | nil =>
      obtain ⟨u, hu, -⟩ := hl t List.mem_cons_self
      cases hu
    | cons u us =>
      obtain ⟨ht, hts⟩ := List.pairwise_cons.mp hts
      obtain ⟨hu, hus⟩ := List.pairwise_cons.mp hus
      have htu : R t u := by
        obtain ⟨u', hu', htu'⟩ := hl t List.mem_cons_self
        obtain ⟨t', ht', htu⟩ := hr u List.mem_cons_self
        rcases List.mem_cons.mp hu' with rfl | hu'
        · exact htu'
        rcases List.mem_cons.mp ht' with rfl | ht'
        · exact htu
        -- each head would come before the other
        have hbefore : u'.isBefore u := hR.isBefore htu' htu ▸ ht t' ht'
        exact absurd hbefore (isBefore_asymm (hu u' hu'))
      refine .cons htu (ih hts hus ?_ ?_)
      · intro t' ht'
        obtain ⟨u', hu', h⟩ := hl t' (List.mem_cons_of_mem t ht')
        rcases List.mem_cons.mp hu' with rfl | hu'
        · have hbefore : u'.isBefore u' := hR.isBefore htu h ▸ ht t' ht'
          exact absurd hbefore (isBefore_irrefl u')
        · exact ⟨u', hu', h⟩
      · intro u' hu'
        obtain ⟨t', ht', h⟩ := hr u' (List.mem_cons_of_mem u hu')
        rcases List.mem_cons.mp ht' with rfl | ht'
        · have hbefore : t'.isBefore t' := (hR.isBefore htu h).symm ▸ hu u' hu'
          exact absurd hbefore (isBefore_irrefl t')
        · exact ⟨t', ht', h⟩

lemma exactSum_eq (hR : Likeness R) {ts us : List Transaction} (h : List.Forall₂ R ts us) :
    exactSum (ts.map Transaction.amount) = exactSum (us.map Transaction.amount) := by
  induction h with
  | nil => rfl
  | cons h _ ih => rw [List.map_cons, List.map_cons, exactSum_cons, exactSum_cons, hR.value h, ih]

end Likeness

end Transaction

def Answer.isRecorded : Answer → Bool
  | .transaction (.ok _) => true
  | _ => false

def Answer.isDuplicate : Answer → Bool
  | .transaction (.error .transactionAlreadyExists) => true
  | _ => false

def Visit.submits (v : Visit) (id : TransactionId) : Bool := v.request.deposit?.any (·.id == id)

namespace Store

def tally (s : Store) (calls : List Visit) (id : TransactionId) (p : Answer → Bool) : Nat :=
  (calls.zip (s.answers calls)).countP fun x => x.1.submits id && x.2.any p

structure Admits (s : Store) (calls : List Visit) : Prop where
  unfired : ∀ v ∈ calls, v.IsUnfired
  adds : ∀ v ∈ calls, ∃ t, v.request.deposit? = some t ∧ s.isRegistered t.userId
  room : ∀ t ∈ submitted calls, s.HasRoom t.userId (submitted calls)

namespace Admits

variable {s : Store} {v : Visit} {calls : List Visit}

lemma perm (h : s.Admits calls) {calls' : List Visit} (hperm : calls.Perm calls') : s.Admits calls' where
  unfired v hv := h.unfired v (hperm.mem_iff.mpr hv)
  adds v hv := h.adds v (hperm.mem_iff.mpr hv)
  room t ht := by
    have hsub : (submitted calls).Perm (submitted calls') := hperm.filterMap _
    exact (h.room t (hsub.mem_iff.mpr ht)).perm hsub

lemma cases (h : s.Admits (v :: calls)) : ∃ t, v.request.deposit? = some t ∧ s.isRegistered t.userId ∧
    submitted (v :: calls) = t :: submitted calls ∧
    ((s.isRecorded t.id ∧ v.answer? s = some (.transaction (.error .transactionAlreadyExists)) ∧ v.after s = s) ∨
      (¬ s.isRecorded t.id ∧ v.answer? s = some (.transaction (.ok t)) ∧ v.after s = s.put t)) := by
  obtain ⟨t, ht, hreg⟩ := h.adds v List.mem_cons_self
  obtain ⟨hr, hv⟩ := Request.deposit?_eq_some ht
  have hsub : submitted (v :: calls) = t :: submitted calls := by rw [submitted_cons, ht]; rfl
  have href := (hsub ▸ h.room t (hsub ▸ List.mem_cons_self)).refusal?_eq hreg
  have hun : v.signal.check v.moment = none := h.unfired v List.mem_cons_self
  refine ⟨t, ht, hreg, hsub, ?_⟩
  rw [v.answer?_eq, v.after_eq, hun, hr]
  by_cases hrec : s.isRecorded t.id
  · rw [if_pos hrec] at href
    left
    simp [hrec, Request.settle, Ledger.addTransaction_of_refused hv href, LedgerError.ofStore]
  · rw [if_neg hrec] at href
    right
    simp [hrec, Request.settle, Ledger.addTransaction_of_accepted hv href]

lemma tail (h : s.Admits (v :: calls)) : (v.after s).Admits calls := by
  obtain ⟨t, -, hreg, hsub, hcases⟩ := h.cases
  have hunfired : ∀ w ∈ calls, w.IsUnfired := fun w hw => h.unfired w (List.mem_cons_of_mem v hw)
  have hadds : ∀ w ∈ calls, ∃ u, w.request.deposit? = some u ∧ s.isRegistered u.userId :=
    fun w hw => h.adds w (List.mem_cons_of_mem v hw)
  have hroom : ∀ u ∈ submitted calls, s.HasRoom u.userId ([t] ++ submitted calls) := by
    intro u hu
    have hu := h.room u (hsub ▸ List.mem_cons_of_mem t hu)
    rwa [hsub] at hu
  rcases hcases with ⟨-, -, hafter⟩ | ⟨-, -, hafter⟩ <;> rw [hafter]
  · exact ⟨hunfired, hadds, fun u hu => (hroom u hu).skip⟩
  · refine ⟨hunfired, ?_, fun u hu => (hroom u hu).put hreg⟩
    intro w hw
    obtain ⟨u, hu, hregu⟩ := hadds w hw
    rw [← isRegistered_put s t] at hregu
    exact ⟨u, hu, hregu⟩

lemma recorded?_serve (h : s.Admits calls) (id : TransactionId) :
    (s.serve calls).recorded? id = (s.recorded? id).or ((submitted calls).find? (·.id == id)) := by
  induction calls generalizing s with
  | nil => simp [serve, submitted]
  | cons v calls ih =>
    obtain ⟨t, -, -, hsub, hcases⟩ := h.cases
    rw [serve_cons, ih h.tail, hsub]
    by_cases hid : t.id = id
    · rw [List.find?_cons_of_pos (by simpa using hid)]
      rcases hcases with ⟨hrec, -, hafter⟩ | ⟨-, -, hafter⟩ <;> rw [hafter]
      · obtain ⟨r, hr⟩ := Option.isSome_iff_exists.mp (hid ▸ hrec)
        simp [hr]
      · simp [recorded?_put, hid]
    · rw [List.find?_cons_of_neg (by simpa using hid)]
      rcases hcases with ⟨-, -, hafter⟩ | ⟨-, -, hafter⟩ <;> rw [hafter]
      rw [recorded?_put, if_neg hid, Option.or_none]

lemma owners_serve (h : s.Admits calls) :
    (s.serve calls).accounts.map Account.owner = s.accounts.map Account.owner := by
  induction calls generalizing s with
  | nil => rfl
  | cons v calls ih =>
    obtain ⟨t, -, -, -, hcases⟩ := h.cases
    rw [serve_cons, ih h.tail]
    rcases hcases with ⟨-, -, hafter⟩ | ⟨-, -, hafter⟩ <;> rw [hafter]
    exact owners_put s t

lemma account?_serve (h : s.Admits calls) {user : UserId} (hne : ∀ t ∈ submitted calls, t.userId ≠ user) :
    (s.serve calls).account? user = s.account? user := by
  induction calls generalizing s with
  | nil => rfl
  | cons v calls ih =>
    obtain ⟨t, -, -, hsub, hcases⟩ := h.cases
    obtain ⟨ht, hne⟩ := List.forall_mem_cons.mp (hsub ▸ hne)
    rw [serve_cons, ih h.tail hne]
    rcases hcases with ⟨-, -, hafter⟩ | ⟨-, -, hafter⟩ <;> rw [hafter]
    cases ha : s.account? user with
    | some a => exact account?_put_of_ne ha ht
    | none => rw [account?_put, ha, Option.map_none]

end Admits

lemma HasRoom.serve {s : Store} {user : UserId} {calls : List Visit} (h : s.HasRoom user (submitted calls)) :
    (s.serve calls).HasRoom user [] := by
  induction calls generalizing s with
  | nil => exact h
  | cons v calls ih =>
    rw [submitted_cons] at h
    have hafter : (v.after s).HasRoom user (submitted calls) := v.after_eq s ▸ h.settle _
    exact ih hafter

section Tallies

variable {s : Store} {v : Visit} {calls : List Visit}

lemma tally_cons (s : Store) (v : Visit) (calls : List Visit) (id : TransactionId) (p : Answer → Bool) :
    s.tally (v :: calls) id p =
      (v.after s).tally calls id p + if v.submits id && (v.answer? s).any p then 1 else 0 :=
  List.countP_cons

lemma Admits.tally_add (h : s.Admits calls) (id : TransactionId) :
    s.tally calls id Answer.isRecorded + s.tally calls id Answer.isDuplicate =
      (submitted calls).countP (·.id == id) := by
  induction calls generalizing s with
  | nil => rfl
  | cons v calls ih =>
    obtain ⟨t, ht, -, hsub, hcases⟩ := h.cases
    have hrest := ih h.tail
    rw [tally_cons, tally_cons, hsub, List.countP_cons, ← hrest, Visit.submits, ht, Option.any_some]
    rcases hcases with ⟨-, hanswer, -⟩ | ⟨-, hanswer, -⟩ <;> rw [hanswer] <;>
      simp [Answer.isRecorded, Answer.isDuplicate] <;> omega

lemma Admits.tally_isRecorded (h : s.Admits calls) (id : TransactionId) :
    s.tally calls id Answer.isRecorded =
      if s.isRecorded id then 0 else if (submitted calls).any (·.id == id) then 1 else 0 := by
  induction calls generalizing s with
  | nil => simp [tally, submitted]
  | cons v calls ih =>
    obtain ⟨t, ht, -, hsub, hcases⟩ := h.cases
    rw [tally_cons, ih h.tail, hsub, List.any_cons, Visit.submits, ht, Option.any_some]
    rcases hcases with ⟨hrec, hanswer, hafter⟩ | ⟨hnew, hanswer, hafter⟩ <;> rw [hanswer, hafter]
    · by_cases hid : t.id = id
      · simp [hid, hid ▸ hrec, Answer.isRecorded]
      · simp [hid, Answer.isRecorded]
    · rw [isRecorded_put]
      by_cases hid : t.id = id
      · simp [hid, hid ▸ hnew, Answer.isRecorded]
      · simp [hid, Answer.isRecorded]

end Tallies

section Orders

variable {R : Transaction → Transaction → Prop} {s : Store} {calls calls' : List Visit}

lemma Sound.serve (hs : s.Sound) (calls : List Visit) : (s.serve calls).Sound := hs.visits calls

lemma tally_perm (h : s.Admits calls) (hperm : calls.Perm calls') (id : TransactionId) :
    s.tally calls id Answer.isRecorded = s.tally calls' id Answer.isRecorded ∧
      s.tally calls id Answer.isDuplicate = s.tally calls' id Answer.isDuplicate := by
  have h' := h.perm hperm
  have hsub : (submitted calls).Perm (submitted calls') := hperm.filterMap _
  have hrecorded : s.tally calls id Answer.isRecorded = s.tally calls' id Answer.isRecorded := by
    rw [h.tally_isRecorded, h'.tally_isRecorded, hsub.any_eq]
  have hadd := h.tally_add id
  have hadd' := h'.tally_add id
  rw [← hsub.countP_eq] at hadd'
  exact ⟨hrecorded, by omega⟩

lemma recorded?_perm (h : s.Admits calls) (hR : Likeness R)
    (hlike : ∀ t ∈ submitted calls, ∀ u ∈ submitted calls, t.id = u.id → R t u) (hperm : calls.Perm calls')
    (id : TransactionId) : Option.Rel R ((s.serve calls).recorded? id) ((s.serve calls').recorded? id) := by
  have hsub : (submitted calls).Perm (submitted calls') := hperm.filterMap _
  rw [h.recorded?_serve, (h.perm hperm).recorded?_serve]
  cases s.recorded? id with
  | some t => exact .some (hR.refl t)
  | none =>
    simp only [Option.none_or]
    cases ht : (submitted calls).find? (·.id == id) with
    | none =>
      have hnone : (submitted calls').find? (·.id == id) = none := by
        rw [List.find?_eq_none] at ht ⊢
        exact fun u hu => ht u (hsub.mem_iff.mpr hu)
      rw [hnone]
      exact .none
    | some t =>
      have hmem := List.mem_of_find?_eq_some ht
      have hid : t.id = id := by simpa using List.find?_some ht
      have hsome : ((submitted calls').find? (·.id == id)).isSome := by
        rw [List.find?_isSome]
        exact ⟨t, hsub.mem_iff.mp hmem, by simpa using hid⟩
      obtain ⟨u, hu⟩ := Option.isSome_iff_exists.mp hsome
      have huid : u.id = id := by simpa using List.find?_some hu
      rw [hu]
      exact .some (hlike t hmem u (hsub.mem_iff.mpr (List.mem_of_find?_eq_some hu)) (hid.trans huid.symm))

lemma history_like {s s' : Store} (hs : s.Sound) (hs' : s'.Sound) (hR : Likeness R)
    (h : ∀ id, Option.Rel R (s.recorded? id) (s'.recorded? id)) (user : UserId) :
    List.Forall₂ R (s.history user) (s'.history user) := by
  refine hR.forall₂_of_sorted (hs.sorted_history user) (hs'.sorted_history user) ?_ ?_
  · intro t ht
    obtain ⟨hmem, huser⟩ := hs.mem_history_iff.mp ht
    have hrel := h t.id
    rw [hs.recorded?_id hmem] at hrel
    generalize hu : s'.recorded? t.id = o at hrel
    cases hrel with
    | some hrel =>
      have hmem' := List.mem_of_find?_eq_some hu
      exact ⟨_, hs'.mem_history_iff.mpr ⟨hmem', hR.userId hrel ▸ huser⟩, hrel⟩
  · intro u hu
    obtain ⟨hmem, huser⟩ := hs'.mem_history_iff.mp hu
    have hrel := h u.id
    rw [hs'.recorded?_id hmem] at hrel
    generalize ht : s.recorded? u.id = o at hrel
    cases hrel with
    | some hrel =>
      have hmem' := List.mem_of_find?_eq_some ht
      exact ⟨_, hs.mem_history_iff.mpr ⟨hmem', (hR.userId hrel).trans huser⟩, hrel⟩

lemma accounts_eq_map {s : Store} (hs : s.Sound) :
    s.accounts = (s.accounts.map Account.owner).map fun user => ⟨user, s.history user⟩ := by
  rw [List.map_map]
  symm
  refine (List.map_congr_left ?_).trans (List.map_id _)
  intro a ha
  rw [Function.comp_apply, hs.history_owner ha, id_eq]

lemma find_perm (h : s.Admits calls) (hperm : calls.Perm calls') (hs : s.Sound)
    (hlike : ∀ t ∈ submitted calls, ∀ u ∈ submitted calls, t.id = u.id → t.same u) (user : UserId) :
    ((s.serve calls).find user).map (fun u => u.balance.value) =
      ((s.serve calls').find user).map fun u => u.balance.value := by
  have hsub : (submitted calls).Perm (submitted calls') := hperm.filterMap _
  by_cases hu : ∃ t ∈ submitted calls, t.userId = user
  · obtain ⟨t, ht, rfl⟩ := hu
    have howners : (s.serve calls).accounts.map Account.owner = (s.serve calls').accounts.map Account.owner :=
      h.owners_serve.trans (h.perm hperm).owners_serve.symm
    have hreg : (s.serve calls).isRegistered t.userId := by
      obtain ⟨v, hv, hvt⟩ := List.mem_filterMap.mp ht
      obtain ⟨u, hu, hreg⟩ := h.adds v hv
      obtain rfl : u = t := by simpa [hvt] using hu.symm
      rw [isRegistered_iff, h.owners_serve, ← isRegistered_iff]
      exact hreg
    have hreg' : (s.serve calls').isRegistered t.userId := by
      rw [isRegistered_iff, ← howners, ← isRegistered_iff]
      exact hreg
    have hroom := h.room t ht
    obtain ⟨b, hb, hbv⟩ := hroom.serve.find_eq hreg
    obtain ⟨b', hb', hbv'⟩ := (hroom.perm hsub).serve.find_eq hreg'
    have hlists := history_like (hs.serve calls) (hs.serve calls') likeness_same
      (recorded?_perm h likeness_same hlike hperm) t.userId
    have hsums : exactSum ((s.serve calls).amounts t.userId) = exactSum ((s.serve calls').amounts t.userId) :=
      likeness_same.exactSum_eq hlists
    simp [hb, hb', hbv, hbv', hsums, Except.map]
  · push Not at hu
    have hu' : ∀ t ∈ submitted calls', t.userId ≠ user := fun t ht => hu t (hsub.mem_iff.mpr ht)
    rw [find, find, h.account?_serve hu, (h.perm hperm).account?_serve hu']

end Orders

end Store

open Store in
/-- Deposits of registered users whose amounts fit together leave the same store in any order, and as many of the
calls for each identity are answered in each way, if deposits of one identity are equal by value: one call records an
identity that is new, and all others are told of a duplicate. If deposits of one identity are equal in their scales
too, so are the records. -/
theorem deposits_in_any_order (visits calls calls' : List Visit) (hunfired : ∀ v ∈ calls, v.IsUnfired)
    (hadds : ∀ v ∈ calls, ∃ t, v.request.deposit? = some t ∧ (served visits).isRegistered t.userId)
    (hsame : ∀ t ∈ submitted calls, ∀ u ∈ submitted calls, t.id = u.id → t.same u)
    (hfit : ∀ t ∈ submitted calls,
      FitTogether ((served visits).amounts t.userId ++ amountsFor t.userId (submitted calls)))
    (hperm : calls.Perm calls') :
    let before := served visits
    let s := before.serve calls
    let s' := before.serve calls'
    (∀ id, before.tally calls id Answer.isRecorded = before.tally calls' id Answer.isRecorded ∧
      before.tally calls id Answer.isDuplicate = before.tally calls' id Answer.isDuplicate) ∧
    (∀ id, (before.tally calls id Answer.isRecorded =
        if before.isRecorded id then 0 else if (submitted calls).any (·.id == id) then 1 else 0) ∧
      before.tally calls id Answer.isRecorded + before.tally calls id Answer.isDuplicate =
        (submitted calls).countP (·.id == id)) ∧
    s.accounts.map Account.owner = s'.accounts.map Account.owner ∧
    (∀ id, Option.Rel (fun t u => t.same u) (s.recorded? id) (s'.recorded? id)) ∧
    (∀ user, List.Forall₂ (fun t u => t.same u) (s.history user) (s'.history user)) ∧
    (∀ user, (s.find user).map (fun u => u.balance.value) = (s'.find user).map fun u => u.balance.value) ∧
    ((∀ t ∈ submitted calls, ∀ u ∈ submitted calls, t.id = u.id → t = u) →
      s.accounts = s'.accounts ∧ (∀ id, s.recorded? id = s'.recorded? id) ∧ ∀ user, s.find user = s'.find user) := by
  intro before s s'
  have hs : before.Sound := sound_served visits
  have h : before.Admits calls := by
    refine ⟨hunfired, hadds, ?_⟩
    intro t ht
    exact .of_fitTogether hs (fun _ => isValid_of_submitted) (hfit t ht)
  have hrecorded := recorded?_perm h likeness_same hsame hperm
  have howners : s.accounts.map Account.owner = s'.accounts.map Account.owner :=
    h.owners_serve.trans (h.perm hperm).owners_serve.symm
  refine ⟨tally_perm h hperm, fun id => ⟨h.tally_isRecorded id, h.tally_add id⟩, howners, hrecorded, ?_,
    find_perm h hperm hs hsame, ?_⟩
  · exact history_like (hs.serve calls) (hs.serve calls') likeness_same hrecorded
  intro heq
  have hidentical : ∀ id, s.recorded? id = s'.recorded? id := by
    intro id
    have hrel := recorded?_perm h likeness_eq heq hperm id
    generalize s.recorded? id = o, s'.recorded? id = o' at hrel ⊢
    cases hrel with
    | none => rfl
    | some hrel => rw [hrel]
  have hhistory : ∀ user, s.history user = s'.history user := by
    intro user
    have hlists := history_like (hs.serve calls) (hs.serve calls') likeness_eq
      (recorded?_perm h likeness_eq heq hperm) user
    exact List.forall₂_eq_eq_eq ▸ hlists
  have haccounts : s.accounts = s'.accounts := by
    rw [accounts_eq_map (hs.serve calls), accounts_eq_map (hs.serve calls'), howners]
    exact List.map_congr_left fun user _ => by rw [hhistory user]
  refine ⟨haccounts, hidentical, ?_⟩
  intro user
  rw [find, find, account?, account?, haccounts]

def repeated : List Transaction := [.ofNumbers 1 20 25 1, .ofNumbers 2 10 1 0, .ofNumbers 1 20 250 2]

def burst : List Visit := repeated.map fun t => { request := .addTransaction t }

theorem burst_backwards :
    let before := Store.served [{ request := .createUser default }]
    before.tally burst.reverse (Transaction.ofNumbers 1 20 25 1).id Answer.isDuplicate = 1 ∧
    List.Forall₂ (fun t u : Transaction => t.same u) [.ofNumbers 2 10 1 0, .ofNumbers 1 20 25 1]
      ((before.serve burst.reverse).history default) := by
  have hunfired : ∀ v ∈ burst, v.IsUnfired := by
    simp [burst, repeated, Visit.IsUnfired, Signal.check, Signal.isCancelled, Signal.isExpired]
  have hadds : ∀ v ∈ burst, ∃ t, v.request.deposit? = some t ∧
      (Store.served [{ request := .createUser default }]).isRegistered t.userId := by
    intro v hv
    obtain ⟨t, ht, rfl⟩ := List.mem_map.mp hv
    have hall : ∀ t ∈ repeated, t.isValid ∧
        (Store.served [{ request := .createUser default }]).isRegistered t.userId := by decide
    exact ⟨t, if_pos (hall t ht).1, (hall t ht).2⟩
  obtain ⟨htally, -, -, -, hhistory, -⟩ := deposits_in_any_order [{ request := .createUser default }] burst
    burst.reverse hunfired hadds (by decide) (by unfold FitTogether; decide +kernel) (List.reverse_perm _).symm
  exact ⟨(htally _).2.symm, hhistory default⟩

end Passbook
