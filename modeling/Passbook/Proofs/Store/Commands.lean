import Passbook.Proofs.Store.Consistency

/-! The states that calls on a store lead to, from the store with nothing in it. A call registers a user, puts one
record or changes nothing. -/

namespace Passbook.Store

open Transaction

inductive Command where
  | addUser (user : UserId)
  | findUser (user : UserId)
  | addTransaction (t : Transaction)
  | history (user : UserId) (page : Page)
  deriving DecidableEq, Repr

namespace Command

def after (s : Store) : Command → Store
  | addUser user => ((Store.repository.addUser user).run 0 s).2
  | findUser user => ((Store.repository.findUser user).run 0 s).2
  | addTransaction t => ((Store.repository.addTransaction t).run 0 s).2
  | history user page => ((Store.repository.history user page).run 0 s).2

lemma after_addUser (s : Store) (user : UserId) : (addUser user).after s = (s.addUser user).2 := rfl

lemma after_addTransaction (s : Store) (t : Transaction) : (addTransaction t).after s = (s.record t).2 := rfl

lemma after_cases (s : Store) (c : Command) : c.after s = s ∨
    (∃ user, c = addUser user ∧ ¬ s.isRegistered user ∧ c.after s = s.register user) ∨
    ∃ t, c = addTransaction t ∧ s.refusal? t = none ∧ c.after s = s.put t := by
  cases c with
  | addUser user =>
    rw [after_addUser]
    by_cases h : s.isRegistered user
    · exact .inl (by rw [addUser_of_registered h])
    · exact .inr (.inl ⟨user, rfl, h, by rw [addUser_of_new h]⟩)
  | findUser user => exact .inl rfl
  | addTransaction t =>
    rw [after_addTransaction]
    cases h : s.refusal? t with
    | none => exact .inr (.inr ⟨t, rfl, h, by rw [record_of_accepted h]⟩)
    | some e => exact .inl (by rw [record_of_refused h])
  | history user page => exact .inl rfl

end Command

def after (commands : List Command) : Store := commands.foldl Command.after {}

lemma Consistent.command {s : Store} (hs : s.Consistent) (c : Command) : (c.after s).Consistent := by
  rcases c.after_cases s with h | ⟨user, -, hnew, h⟩ | ⟨t, -, hr, h⟩ <;> rw [h]
  · exact hs
  · exact hs.register hnew
  · exact hs.put (isRegistered_of_refusal? hr) (not_isRecorded_of_refusal? hr)

lemma Consistent.commands {s : Store} (hs : s.Consistent) (commands : List Command) :
    (commands.foldl Command.after s).Consistent := by
  induction commands generalizing s with
  | nil => exact hs
  | cons c commands ih => exact ih (hs.command c)

lemma consistent_after (commands : List Command) : (after commands).Consistent := Consistent.empty.commands commands

lemma index_after_addUser (users : List UserId) : (after (users.map Command.addUser)).index = [] := by
  have h : ∀ s : Store, ((users.map Command.addUser).foldl Command.after s).index = s.index := by
    induction users with
    | nil => exact fun _ => rfl
    | cons user users ih =>
      intro s
      have hstep : ((Command.addUser user).after s).index = s.index := by
        rw [Command.after_addUser]
        by_cases h : s.isRegistered user
        · rw [addUser_of_registered h]
        · rw [addUser_of_new h]
          rfl
      exact (ih _).trans hstep
  exact h {}

/-- After any calls, the histories are sorted and hold the records of their users, the index holds the same records,
and an identity is taken just when a history shows it. -/
theorem histories_agree_with_index (commands : List Command) :
    let s := after commands
    (s.accounts.map Account.owner).Nodup ∧
    (∀ user, (s.history user).Pairwise fun r t => r.historyOrder t = .lt) ∧
    (∀ user, ∀ t ∈ s.history user, t.userId = user) ∧
    (∀ id t, s.recorded? id = some t → t.id = id) ∧
    (∀ t ∈ s.index, s.recorded? t.id = some t ∧ (s.history t.userId).count t = 1 ∧
      ∀ user, user ≠ t.userId → t ∉ s.history user) ∧
    (∀ user, ∀ t ∈ s.history user, s.recorded? t.id = some t) ∧
    s.transactionCount = (s.accounts.map fun a => (s.history a.owner).length).sum ∧
    (s.records.map Transaction.id).Nodup ∧
    ∀ t, s.isRegistered t.userId →
      ((s.record t).1 = .error (.conflict t.id) ↔ ∃ user, ∃ r ∈ s.history user, r.id = t.id) := by
  intro s
  have hs : s.Consistent := consistent_after commands
  refine ⟨hs.owners_nodup, ?_, ?_, ?_, ?_, ?_, ?_, hs.records_ids_nodup, ?_⟩
  · intro user
    exact (hs.sorted_history user).imp isBefore_iff.mp
  · intro user t ht
    exact hs.userId_of_mem_history ht
  · intro id t ht
    have hid := List.find?_some ht
    exact beq_iff_eq.mp hid
  · intro t ht
    refine ⟨hs.recorded?_id ht, ?_, ?_⟩
    · exact List.count_eq_one_of_mem (hs.history_nodup t.userId) (hs.mem_history_iff.mpr ⟨ht, rfl⟩)
    · intro user hne hmem
      exact hne (hs.userId_of_mem_history hmem).symm
  · intro user t ht
    exact hs.recorded?_id (hs.mem_history_iff.mp ht).1
  · rw [hs.transactionCount_eq]
    exact congrArg List.sum (List.map_congr_left fun a ha => by rw [hs.history_owner ha])
  · intro t hreg
    rw [record_conflict_iff hreg, hs.isRecorded_iff_history]

end Passbook.Store
