import Passbook.Proofs.Store.Consistency

/-! What is seen of a store after a write, what is refused without one, and what every write keeps. -/

namespace Passbook.Store

section Refusals

lemma find_of_unregistered {s : Store} {user : UserId} (h : ¬ s.isRegistered user) :
    s.find user = .error .notFound := by
  have hnone : s.account? user = none := by simpa [isRegistered] using h
  simp [find, hnone]

lemma refusal?_of_unregistered {s : Store} {t : Transaction} (h : ¬ s.isRegistered t.userId) :
    s.refusal? t = some .notFound := by
  have hnone : s.account? t.userId = none := by simpa [isRegistered] using h
  simp [refusal?, hnone]

lemma page_of_registered {s : Store} {user : UserId} (h : s.isRegistered user) (p : Page) :
    s.page user p = .ok (p.select (s.history user)) := by
  obtain ⟨a, ha⟩ := Option.isSome_iff_exists.mp h
  simp [page, history_of_account? ha, ha]

lemma refusal?_eq_conflict {s : Store} {t : Transaction} (hreg : s.isRegistered t.userId) (hrec : s.isRecorded t.id) :
    s.refusal? t = some (.conflict t.id) := by
  obtain ⟨a, ha⟩ := Option.isSome_iff_exists.mp hreg
  simp [refusal?, ha, hrec]

lemma refusal?_of_recorded {s : Store} {t : Transaction} (h : s.isRecorded t.id) :
    s.refusal? t = some .notFound ∨ s.refusal? t = some (.conflict t.id) := by
  by_cases hreg : s.isRegistered t.userId
  · exact .inr (refusal?_eq_conflict hreg h)
  · exact .inl (refusal?_of_unregistered hreg)

lemma addUser_of_error {s : Store} {user : UserId} {e : StoreError} (h : (s.addUser user).1 = .error e) :
    (s.addUser user).2 = s := by
  by_cases hreg : s.isRegistered user
  · rw [addUser_of_registered hreg]
  · rw [addUser_of_new hreg] at h
    cases h

lemma record_of_error {s : Store} {t : Transaction} {e : StoreError} (h : (s.record t).1 = .error e) :
    (s.record t).2 = s := by
  cases href : s.refusal? t with
  | none =>
    rw [record_of_accepted href] at h
    cases h
  | some e => rw [record_of_refused href]

end Refusals

section Histories

variable {s : Store} {t : Transaction} {user : UserId}

lemma isRegistered_put (s : Store) (t : Transaction) (user : UserId) :
    (s.put t).isRegistered user = s.isRegistered user := by
  simp [isRegistered, account?_put]

lemma isRegistered_register (h : s.isRegistered user) (other : UserId) : (s.register other).isRegistered user := by
  obtain ⟨a, ha⟩ := Option.isSome_iff_exists.mp h
  exact Option.isSome_iff_exists.mpr ⟨a, account?_register ha other⟩

lemma account?_register_eq (s : Store) (other user : UserId) : (s.register other).account? user =
    (s.account? user).or (if other = user then some ⟨other, []⟩ else none) := by
  by_cases ho : other = user <;> simp [account?, register, List.find?_append, ho]

lemma history_register (s : Store) (other user : UserId) : (s.register other).history user = s.history user := by
  rw [history, history, account?_register_eq]
  cases s.account? user with
  | some a => rfl
  | none => split <;> rfl

lemma history_put_self (h : s.isRegistered t.userId) : ((s.put t).history t.userId).Perm (t :: s.history t.userId) := by
  obtain ⟨a, ha⟩ := Option.isSome_iff_exists.mp h
  rw [history_of_account? (account?_put_self ha), history_of_account? ha]
  exact a.perm_insert t

lemma history_put_of_ne (hne : t.userId ≠ user) : (s.put t).history user = s.history user := by
  cases h : s.account? user with
  | some a => rw [history_of_account? h, history_of_account? (account?_put_of_ne h hne)]
  | none => simp [history, account?_put, h]

end Histories

section Identities

lemma recorded?_put (s : Store) (t : Transaction) (id : TransactionId) :
    (s.put t).recorded? id = (s.recorded? id).or (if t.id = id then some t else none) := by
  by_cases hid : t.id = id <;> simp [recorded?, put, List.find?_append, hid]

lemma isRecorded_put (s : Store) (t : Transaction) (id : TransactionId) :
    (s.put t).isRecorded id = (s.isRecorded id || t.id == id) := by
  rw [isRecorded, recorded?_put, isRecorded]
  by_cases hid : t.id = id <;> simp [hid]

end Identities

inductive Grows (s : Store) : Store → Prop
  | same : Grows s s
  | register {user : UserId} : ¬ s.isRegistered user → Grows s (s.register user)
  | put {t : Transaction} : s.refusal? t = none → Grows s (s.put t)

namespace Grows

variable {s s' : Store}

lemma of_addUser (s : Store) (user : UserId) : s.Grows (s.addUser user).2 := by
  by_cases h : s.isRegistered user
  · rw [addUser_of_registered h]
    exact .same
  · rw [addUser_of_new h]
    exact .register h

lemma of_record (s : Store) (t : Transaction) : s.Grows (s.record t).2 := by
  cases h : s.refusal? t with
  | none =>
    rw [record_of_accepted h]
    exact .put h
  | some e =>
    rw [record_of_refused h]
    exact .same

lemma isRegistered (h : s.Grows s') {user : UserId} (hreg : s.isRegistered user) : s'.isRegistered user := by
  cases h with
  | same => exact hreg
  | @register other _ => exact isRegistered_register hreg other
  | @put t _ =>
    rw [isRegistered_put]
    exact hreg

lemma consistent (h : s.Grows s') (hs : s.Consistent) : s'.Consistent := by
  cases h with
  | same => exact hs
  | register hnew => exact hs.register hnew
  | put href => exact hs.put (isRegistered_of_refusal? href) (not_isRecorded_of_refusal? href)

lemma isRecorded (h : s.Grows s') {id : TransactionId} (hrec : s.isRecorded id) : s'.isRecorded id := by
  cases h with
  | same => exact hrec
  | register => exact hrec
  | put => simp [isRecorded_put, hrec]

end Grows

structure KeptIn (s s' : Store) : Prop where
  isRegistered user : s.isRegistered user → s'.isRegistered user
  history user : (s.history user).Sublist (s'.history user)
  recorded? id t : s.recorded? id = some t → s'.recorded? id = some t

lemma history_sublist_put (s : Store) (t : Transaction) (user : UserId) :
    (s.history user).Sublist ((s.put t).history user) := by
  by_cases hu : t.userId = user
  · subst hu
    cases ha : s.account? t.userId with
    | none => simp [history, ha]
    | some a =>
      rw [history_of_account? ha, history_of_account? (account?_put_self ha)]
      exact a.history_sublist_insert t
  · rw [history_put_of_ne hu]

namespace KeptIn

variable {s s' s'' : Store}

lemma refl (s : Store) : s.KeptIn s := ⟨fun _ h => h, fun _ => .refl _, fun _ _ h => h⟩

lemma trans (h : s.KeptIn s') (h' : s'.KeptIn s'') : s.KeptIn s'' where
  isRegistered user hreg := h'.isRegistered user (h.isRegistered user hreg)
  history user := (h.history user).trans (h'.history user)
  recorded? id t hrec := h'.recorded? id t (h.recorded? id t hrec)

lemma of_grows (h : s.Grows s') : s.KeptIn s' := by
  refine ⟨fun _ => h.isRegistered, ?_, ?_⟩
  · intro user
    cases h with
    | same => exact .refl _
    | @register other => rw [history_register]
    | @put t => exact history_sublist_put s t user
  · intro id r hr
    cases h with
    | same => exact hr
    | register => exact hr
    | put => simp [recorded?_put, hr]

lemma isRecorded (h : s.KeptIn s') {id : TransactionId} (hrec : s.isRecorded id) : s'.isRecorded id := by
  obtain ⟨t, ht⟩ := Option.isSome_iff_exists.mp hrec
  exact Option.isSome_iff_exists.mpr ⟨t, h.recorded? id t ht⟩

end KeptIn

end Passbook.Store
