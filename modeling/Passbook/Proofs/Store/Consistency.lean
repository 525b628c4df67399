import Mathlib.Data.List.Nodup
import Mathlib.Data.List.Flatten
import Mathlib.Algebra.BigOperators.Group.List.Basic
import Mathlib.Algebra.GroupWithZero.Nat
import Passbook.Proofs.History.Order
import Passbook.Repository.Basic

/-! What holds of a store after any calls on it: sorted histories of their users, and an index of just the records
that the histories hold. -/

namespace Passbook.Store

open Transaction

def records (s : Store) : List Transaction := s.accounts.flatMap Account.history

def recordsOf (s : Store) (id : TransactionId) : List Transaction := s.records.filter (·.id == id)

structure Consistent (s : Store) : Prop where
  owners_nodup : (s.accounts.map Account.owner).Nodup
  sorted : ∀ a ∈ s.accounts, Sorted a.history
  owned : ∀ a ∈ s.accounts, ∀ t ∈ a.history, t.userId = a.owner
  ids_nodup : (s.index.map Transaction.id).Nodup
  records_perm : s.records.Perm s.index

section Views

lemma account?_some {s : Store} {user : UserId} {a : Account} (h : s.account? user = some a) :
    a ∈ s.accounts ∧ a.owner = user := by
  have howner := List.find?_some h
  exact ⟨List.mem_of_find?_eq_some h, beq_iff_eq.mp howner⟩

lemma isRegistered_iff {s : Store} {user : UserId} : s.isRegistered user ↔ user ∈ s.accounts.map Account.owner := by
  simp [isRegistered, account?, List.find?_isSome]

lemma isRecorded_iff {s : Store} {id : TransactionId} : s.isRecorded id ↔ id ∈ s.index.map Transaction.id := by
  simp [isRecorded, recorded?, List.find?_isSome]

lemma mem_records {s : Store} {t : Transaction} : t ∈ s.records ↔ ∃ a ∈ s.accounts, t ∈ a.history :=
  List.mem_flatMap

lemma history_of_account? {s : Store} {user : UserId} {a : Account} (h : s.account? user = some a) :
    s.history user = a.history := by
  simp [history, h]

lemma mem_history {s : Store} {user : UserId} {t : Transaction} (h : t ∈ s.history user) :
    ∃ a ∈ s.accounts, a.owner = user ∧ t ∈ a.history := by
  unfold history at h
  cases ha : s.account? user with
  | none => simp [ha] at h
  | some a =>
    simp only [ha, Option.map_some, Option.getD_some] at h
    exact ⟨a, (account?_some ha).1, (account?_some ha).2, h⟩

lemma isRegistered_of_mem_history {s : Store} {user : UserId} {t : Transaction} (h : t ∈ s.history user) :
    s.isRegistered user := by
  obtain ⟨a, ha, howner, -⟩ := mem_history h
  exact isRegistered_iff.mpr (howner ▸ List.mem_map_of_mem ha)

end Views

namespace Consistent

variable {s : Store}

lemma account?_owner (hs : s.Consistent) {a : Account} (ha : a ∈ s.accounts) : s.account? a.owner = some a := by
  have hreg : s.isRegistered a.owner := isRegistered_iff.mpr (List.mem_map_of_mem ha)
  obtain ⟨b, hb⟩ := Option.isSome_iff_exists.mp hreg
  obtain ⟨hmem, howner⟩ := account?_some hb
  rw [hb, List.inj_on_of_nodup_map hs.owners_nodup hmem ha howner]

lemma history_owner (hs : s.Consistent) {a : Account} (ha : a ∈ s.accounts) : s.history a.owner = a.history :=
  history_of_account? (hs.account?_owner ha)

lemma sorted_history (hs : s.Consistent) (user : UserId) : Sorted (s.history user) := by
  cases h : s.account? user with
  | none => simp [history, h]
  | some a =>
    rw [history_of_account? h]
    exact hs.sorted a (account?_some h).1

lemma userId_of_mem_history (hs : s.Consistent) {user : UserId} {t : Transaction} (h : t ∈ s.history user) :
    t.userId = user := by
  obtain ⟨a, ha, rfl, ht⟩ := mem_history h
  exact hs.owned a ha t ht

lemma mem_history_userId (hs : s.Consistent) {t : Transaction} (h : t ∈ s.records) : t ∈ s.history t.userId := by
  obtain ⟨a, ha, ht⟩ := mem_records.mp h
  rw [hs.owned a ha t ht, hs.history_owner ha]
  exact ht

lemma mem_history_iff (hs : s.Consistent) {user : UserId} {t : Transaction} :
    t ∈ s.history user ↔ t ∈ s.index ∧ t.userId = user := by
  constructor
  · intro h
    obtain ⟨a, ha, -, ht⟩ := mem_history h
    exact ⟨hs.records_perm.mem_iff.mp (mem_records.mpr ⟨a, ha, ht⟩), hs.userId_of_mem_history h⟩
  · rintro ⟨h, rfl⟩
    exact hs.mem_history_userId (hs.records_perm.mem_iff.mpr h)

lemma mem_history_of_recorded? (hs : s.Consistent) {id : TransactionId} {r : Transaction}
    (h : s.recorded? id = some r) : r ∈ s.history r.userId :=
  hs.mem_history_iff.mpr ⟨List.mem_of_find?_eq_some h, rfl⟩

lemma records_ids_nodup (hs : s.Consistent) : (s.records.map Transaction.id).Nodup :=
  (hs.records_perm.map _).nodup_iff.mpr hs.ids_nodup

lemma history_nodup (hs : s.Consistent) (user : UserId) : (s.history user).Nodup := (hs.sorted_history user).nodup

lemma filter_eq_singleton {ts : List Transaction} (hn : (ts.map Transaction.id).Nodup) {r : Transaction} (h : r ∈ ts) :
    ts.filter (·.id == r.id) = [r] := by
  induction ts with
  | nil => exact absurd h List.not_mem_nil
  | cons t ts ih =>
    obtain ⟨ht, hn⟩ := List.nodup_cons.mp hn
    rcases List.mem_cons.mp h with rfl | h
    · have hrest : ts.filter (·.id == r.id) = [] := by
        apply List.filter_eq_nil_iff.mpr
        intro t hmem hid
        exact ht (beq_iff_eq.mp hid ▸ List.mem_map_of_mem hmem)
      rw [List.filter_cons, if_pos (beq_self_eq_true r.id), hrest]
    · have hne : ¬ (t.id == r.id) = true := fun hid => ht (beq_iff_eq.mp hid ▸ List.mem_map_of_mem h)
      rw [List.filter_cons, if_neg hne, ih hn h]

lemma recordsOf_id (hs : s.Consistent) {r : Transaction} (h : r ∈ s.index) : s.recordsOf r.id = [r] :=
  filter_eq_singleton hs.records_ids_nodup (hs.records_perm.mem_iff.mpr h)

lemma length_recordsOf_le (hs : s.Consistent) (id : TransactionId) : (s.recordsOf id).length ≤ 1 := by
  cases hr : s.recordsOf id with
  | nil => simp
  | cons r rs =>
    have hmem : r ∈ s.recordsOf id := hr ▸ List.mem_cons_self
    obtain ⟨hrec, hid⟩ := List.mem_filter.mp hmem
    have hone := hs.recordsOf_id (hs.records_perm.mem_iff.mp hrec)
    rw [beq_iff_eq.mp hid, hr] at hone
    exact Nat.le_of_eq (congrArg List.length hone)

lemma recorded?_id (hs : s.Consistent) {t : Transaction} (h : t ∈ s.index) : s.recorded? t.id = some t := by
  have hrec : s.isRecorded t.id := isRecorded_iff.mpr (List.mem_map_of_mem h)
  obtain ⟨r, hr⟩ := Option.isSome_iff_exists.mp hrec
  have hid : r.id = t.id := by simpa using List.find?_some hr
  rw [hr, List.inj_on_of_nodup_map hs.ids_nodup (List.mem_of_find?_eq_some hr) h hid]

lemma transactionCount_eq (hs : s.Consistent) :
    s.transactionCount = (s.accounts.map fun a => a.history.length).sum := by
  rw [transactionCount, ← hs.records_perm.length_eq, records, List.length_flatMap]

lemma isRecorded_iff_history (hs : s.Consistent) {id : TransactionId} :
    s.isRecorded id ↔ ∃ user, ∃ r ∈ s.history user, r.id = id := by
  rw [isRecorded_iff, List.mem_map]
  constructor
  · rintro ⟨r, hr, hid⟩
    exact ⟨r.userId, r, hs.mem_history_iff.mpr ⟨hr, rfl⟩, hid⟩
  · rintro ⟨user, r, hr, hid⟩
    exact ⟨r, (hs.mem_history_iff.mp hr).1, hid⟩

end Consistent

section Writes

lemma refusal?_eq_none_iff {s : Store} {t : Transaction} :
    s.refusal? t = none ↔ ∃ a, s.account? t.userId = some a ∧ ¬ s.isRecorded t.id ∧
      ∃ b, a.total? = some b ∧ (b.add? t.amount).isSome := by
  unfold refusal?
  cases s.account? t.userId with
  | none => simp
  | some a =>
    by_cases hrec : s.isRecorded t.id
    · simp [hrec]
    · simp [hrec, Option.isSome_iff_ne_none]

lemma isRegistered_of_refusal? {s : Store} {t : Transaction} (h : s.refusal? t = none) : s.isRegistered t.userId := by
  obtain ⟨a, ha, -⟩ := refusal?_eq_none_iff.mp h
  exact Option.isSome_iff_exists.mpr ⟨a, ha⟩

lemma not_isRecorded_of_refusal? {s : Store} {t : Transaction} (h : s.refusal? t = none) : ¬ s.isRecorded t.id := by
  obtain ⟨a, -, hnew, -⟩ := refusal?_eq_none_iff.mp h
  exact hnew

lemma addUser_of_registered {s : Store} {user : UserId} (h : s.isRegistered user) :
    s.addUser user = (.error (.userExists user), s) := by
  simp [addUser, h]

lemma addUser_of_new {s : Store} {user : UserId} (h : ¬ s.isRegistered user) :
    s.addUser user = (.ok ⟨user, Amount.zero⟩, s.register user) := by
  simp [addUser, h]

lemma record_of_refused {s : Store} {t : Transaction} {e : StoreError} (h : s.refusal? t = some e) :
    s.record t = (.error e, s) := by
  simp [record, h]

lemma record_of_accepted {s : Store} {t : Transaction} (h : s.refusal? t = none) : s.record t = (.ok (), s.put t) := by
  simp [record, h]

lemma record_conflict_iff {s : Store} {t : Transaction} (hreg : s.isRegistered t.userId) :
    (s.record t).1 = .error (.conflict t.id) ↔ s.isRecorded t.id := by
  obtain ⟨a, ha⟩ := Option.isSome_iff_exists.mp hreg
  by_cases hrec : s.isRecorded t.id
  · simp [record, refusal?, ha, hrec]
  · cases hb : a.total?.bind (Amount.add? · t.amount) <;> simp [record, refusal?, ha, hrec, hb]

lemma isRecorded_of_conflict {s : Store} {t : Transaction} {id : TransactionId}
    (h : s.refusal? t = some (.conflict id)) : s.isRecorded t.id := by
  unfold refusal? at h
  by_contra hrec
  cases ha : s.account? t.userId with
  | none => simp [ha] at h
  | some a => cases hb : a.total?.bind (Amount.add? · t.amount) <;> simp [ha, hrec, hb] at h

lemma Consistent.empty : Consistent {} where
  owners_nodup := List.nodup_nil
  sorted := by simp
  owned := by simp
  ids_nodup := List.nodup_nil
  records_perm := .refl _

lemma Consistent.register {s : Store} (hs : s.Consistent) {user : UserId} (hnew : ¬ s.isRegistered user) :
    (s.register user).Consistent where
  owners_nodup := by
    rw [isRegistered_iff] at hnew
    simp only [Store.register, List.map_append, List.map_cons, List.map_nil]
    exact List.nodup_append.mpr ⟨hs.owners_nodup, List.nodup_singleton _, by
      rintro x hx y hy rfl
      exact hnew (List.mem_singleton.mp hy ▸ hx)⟩
  sorted a ha := by
    rcases List.mem_append.mp ha with ha | ha
    · exact hs.sorted a ha
    · rw [List.mem_singleton.mp ha]
      exact List.Pairwise.nil
  owned a ha t ht := by
    rcases List.mem_append.mp ha with ha | ha
    · exact hs.owned a ha t ht
    · rw [List.mem_singleton.mp ha] at ht
      exact absurd ht List.not_mem_nil
  ids_nodup := hs.ids_nodup
  records_perm := by simpa [records, Store.register] using hs.records_perm

lemma owner_put (t : Transaction) (a : Account) : (if a.owner == t.userId then a.insert t else a).owner = a.owner := by
  split <;> rfl

lemma account?_put (s : Store) (t : Transaction) (user : UserId) : (s.put t).account? user =
    (s.account? user).map fun a => if a.owner == t.userId then a.insert t else a := by
  unfold account? put
  rw [List.find?_map]
  congr 2
  funext a
  exact congrArg (· == user) (owner_put t a)

lemma account?_put_self {s : Store} {t : Transaction} {a : Account} (h : s.account? t.userId = some a) :
    (s.put t).account? t.userId = some (a.insert t) := by
  rw [account?_put, h, Option.map_some, if_pos (beq_iff_eq.mpr (account?_some h).2)]

lemma account?_register {s : Store} {user : UserId} {a : Account} (h : s.account? user = some a) (other : UserId) :
    (s.register other).account? user = some a := by
  have hfind : s.accounts.find? (·.owner == user) = some a := h
  simp [account?, register, List.find?_append, hfind]

lemma account?_put_of_ne {s : Store} {t : Transaction} {user : UserId} {a : Account} (h : s.account? user = some a)
    (hne : t.userId ≠ user) : (s.put t).account? user = some a := by
  have howner : ¬ a.owner == t.userId := by
    rw [(account?_some h).2]
    simpa using hne.symm
  rw [account?_put, h, Option.map_some, if_neg howner]

lemma owners_put (s : Store) (t : Transaction) :
    (s.put t).accounts.map Account.owner = s.accounts.map Account.owner := by
  rw [put, List.map_map]
  exact List.map_congr_left fun a _ => owner_put t a

lemma flatMap_history_put {accounts : List Account} {t : Transaction} (hn : (accounts.map Account.owner).Nodup)
    (ht : t.userId ∈ accounts.map Account.owner) :
    ((accounts.map fun a => if a.owner == t.userId then a.insert t else a).flatMap Account.history).Perm
      (t :: accounts.flatMap Account.history) := by
  induction accounts with
  | nil => simp at ht
  | cons a accounts ih =>
    obtain ⟨ha, hn⟩ := List.nodup_cons.mp hn
    by_cases ho : a.owner = t.userId
    · have hrest : (accounts.map fun a => if a.owner == t.userId then a.insert t else a) = accounts := by
        refine (List.map_congr_left ?_).trans (List.map_id _)
        intro b hb
        have hne : b.owner ≠ t.userId := fun h => ha (ho ▸ h ▸ List.mem_map_of_mem hb)
        simp [hne]
      rw [List.map_cons, hrest]
      simpa [ho] using (a.perm_insert t).append_right _
    · have hrest : t.userId ∈ accounts.map Account.owner := by
        rcases List.mem_cons.mp ht with h | h
        · exact absurd h.symm ho
        · exact h
      have hih := (ih hn hrest).append_left a.history
      simpa [ho] using hih.trans List.perm_middle

lemma records_put {s : Store} (hs : s.Consistent) {t : Transaction} (hreg : s.isRegistered t.userId) :
    (s.put t).records.Perm (t :: s.records) :=
  flatMap_history_put hs.owners_nodup (isRegistered_iff.mp hreg)

lemma Consistent.put {s : Store} (hs : s.Consistent) {t : Transaction} (hreg : s.isRegistered t.userId)
    (hnew : ¬ s.isRecorded t.id) : (s.put t).Consistent where
  owners_nodup := by
    rw [owners_put]
    exact hs.owners_nodup
  sorted a ha := by
    obtain ⟨b, hb, rfl⟩ := List.mem_map.mp ha
    split
    · apply Account.sorted_insert (hs.sorted b hb)
      intro r hr hid
      have hmem := hs.records_perm.mem_iff.mp (mem_records.mpr ⟨b, hb, hr⟩)
      exact hnew (isRecorded_iff.mpr (hid ▸ List.mem_map_of_mem hmem))
    · exact hs.sorted b hb
  owned a ha r hr := by
    obtain ⟨b, hb, rfl⟩ := List.mem_map.mp ha
    rw [owner_put]
    split at hr
    · rename_i ho
      rcases Account.mem_insert.mp hr with rfl | hr
      · exact (beq_iff_eq.mp ho).symm
      · exact hs.owned b hb r hr
    · exact hs.owned b hb r hr
  ids_nodup := by
    rw [isRecorded_iff] at hnew
    simp only [Store.put, List.map_append, List.map_cons, List.map_nil]
    exact List.nodup_append.mpr ⟨hs.ids_nodup, List.nodup_singleton _, by
      rintro x hx y hy rfl
      exact hnew (List.mem_singleton.mp hy ▸ hx)⟩
  records_perm :=
    (records_put hs hreg).trans ((hs.records_perm.cons t).trans (List.perm_append_singleton t s.index).symm)

end Writes

end Passbook.Store
