import Passbook.Proofs.Amount.Monotone
import Passbook.Proofs.Amount.Normal
import Passbook.Proofs.Manager.Balance

/-! How a balance changes from call to call. A deposit can come anywhere in a history, and all additions behind it can
round in other ways than before; still no balance is lower for it, and no other call changes one. -/

namespace Passbook

open Amount

lemma Visit.answered_cases (v : Visit) (s : Store) : v.after s = s ∨
    (∃ user, ¬ s.isRegistered user ∧ v.after s = s.register user) ∨
    ∃ t, v.answer? s = some (.transaction (.ok t)) ∧ t.isValid ∧ s.refusal? t = none ∧ v.after s = s.put t := by
  rcases v.after_cases s with h | ⟨user, -, hnew, h⟩ | ⟨t, hreq, hv, href, h⟩
  · exact .inl h
  · exact .inr (.inl ⟨user, hnew, h⟩)
  · rw [v.answer?_eq, hreq]
    rw [v.after_eq, hreq] at h ⊢
    rcases Ledger.addTransaction_cases (v.signal.check v.moment) t s with ⟨e, hc⟩ | ⟨-, -, hc⟩
    · exact .inl (by simp [Request.settle, hc])
    · exact .inr (.inr ⟨t, by simp [Request.settle, hc], hv, href, h⟩)

namespace Store

variable {s : Store} {t : Transaction} {user : UserId} {u u' : User}

lemma find_of_account?_eq {s' : Store} (h : s'.account? user = s.account? user) : s'.find user = s.find user := by
  simp only [find, h]

lemma find_register (hu : s.find user = .ok u) (other : UserId) : (s.register other).find user = .ok u := by
  obtain ⟨a, ha⟩ := Option.isSome_iff_exists.mp (find_eq_ok_iff.mp hu).1
  have heq : (s.register other).account? user = s.account? user := by rw [account?_register ha, ha]
  rw [find_of_account?_eq heq, hu]

lemma find_put_of_ne (hne : t.userId ≠ user) (hu : s.find user = .ok u) : (s.put t).find user = .ok u := by
  obtain ⟨a, ha⟩ := Option.isSome_iff_exists.mp (find_eq_ok_iff.mp hu).1
  have heq : (s.put t).account? user = s.account? user := by rw [account?_put_of_ne ha hne, ha]
  rw [find_of_account?_eq heq, hu]

lemma exists_amounts_put (hreg : s.isRegistered t.userId) : ∃ before after,
    s.amounts t.userId = before ++ after ∧ (s.put t).amounts t.userId = before ++ t.amount :: after := by
  obtain ⟨a, ha⟩ := Option.isSome_iff_exists.mp hreg
  refine ⟨(a.history.takeWhile (·.isBefore t)).map Transaction.amount,
    (a.history.dropWhile (·.isBefore t)).map Transaction.amount, ?_, ?_⟩
  · rw [amounts, history_of_account? ha, ← List.map_append, List.takeWhile_append_dropWhile]
  · rw [amounts, history_of_account? (account?_put_self ha), Account.history_insert, List.map_append, List.map_cons]

lemma find_put_le (hv : t.isValid) (hu : s.find t.userId = .ok u) (hu' : (s.put t).find t.userId = .ok u') :
    u.balance.value ≤ u'.balance.value := by
  obtain ⟨hreg, -, hsum⟩ := find_eq_ok_iff.mp hu
  obtain ⟨-, -, hsum'⟩ := find_eq_ok_iff.mp hu'
  obtain ⟨before, after, hbefore, hafter⟩ := exists_amounts_put hreg
  rw [hbefore] at hsum
  rw [hafter] at hsum'
  exact sum?_insert_mono (Amount.isPositive_iff.mp hv).le hsum hsum'

lemma find_visit_le (v : Visit) (hu : s.find user = .ok u) (hu' : (v.after s).find user = .ok u') :
    u.balance.value ≤ u'.balance.value := by
  rcases v.after_cases s with h | ⟨other, -, -, h⟩ | ⟨t, -, hv, -, h⟩ <;> rw [h] at hu'
  · obtain rfl := Except.ok.inj (hu.symm.trans hu')
    exact le_rfl
  · obtain rfl := Except.ok.inj ((find_register hu other).symm.trans hu')
    exact le_rfl
  · by_cases hne : t.userId = user
    · subst hne
      exact find_put_le hv hu hu'
    · obtain rfl := Except.ok.inj ((find_put_of_ne hne hu).symm.trans hu')
      exact le_rfl

lemma find_visit_eq {v : Visit} (hu : s.find user = .ok u)
    (h : ∀ t, v.answer? s = some (.transaction (.ok t)) → t.userId ≠ user) : (v.after s).find user = .ok u := by
  rcases v.answered_cases s with hs | ⟨other, -, hs⟩ | ⟨t, ht, -, -, hs⟩ <;> rw [hs]
  · exact hu
  · exact find_register hu other
  · exact find_put_of_ne (h t ht) hu

lemma find_serve_le (hu : s.find user = .ok u) (visits : List Visit) (hu' : (s.serve visits).find user = .ok u') :
    u.balance.value ≤ u'.balance.value := by
  induction visits generalizing s u with
  | nil =>
    obtain rfl := Except.ok.inj (hu.symm.trans hu')
    exact le_rfl
  | cons v visits ih =>
    obtain ⟨a, ha⟩ := Option.isSome_iff_exists.mp ((v.grows_after s).isRegistered (find_eq_ok_iff.mp hu).1)
    cases ht : a.total? with
    | none =>
      -- a balance that can be read at the end could be read all the way
      have hlost := (unreadable_for_good ha ht visits).1
      rw [serve_cons, serve, hlost] at hu'
      cases hu'
    | some b =>
      have hb : (v.after s).find user = .ok ⟨user, b⟩ := by simp [find, ha, ht]
      exact (find_visit_le v hu hb).trans (ih hb hu')

/-- A deposit that is accepted does not lower the balance of its user, and every other call leaves it as it is, so no
later balance is lower. Whatever the amounts of a list, one more that is positive does not lower its sum. -/
theorem balance_never_falls (visits : List Visit) {user : UserId} {u : User} (hu : (served visits).find user = .ok u) :
    let s := served visits
    (∀ (v : Visit) (t : Transaction) (u' : User), v.answer? s = some (.transaction (.ok t)) → t.userId = user →
      (v.after s).find user = .ok u' → u.balance.value ≤ u'.balance.value) ∧
    (∀ v : Visit, (∀ t, v.answer? s = some (.transaction (.ok t)) → t.userId ≠ user) →
      (v.after s).find user = .ok u) ∧
    (∀ (later : List Visit) (u' : User), (served (visits ++ later)).find user = .ok u' →
      u.balance.value ≤ u'.balance.value) ∧
    ∀ (before after : List Amount) (x b b' : Amount), 0 < x.value → sum? (before ++ after) = some b →
      sum? (before ++ x :: after) = some b' → b.value ≤ b'.value := by
  intro s
  refine ⟨?_, ?_, ?_, ?_⟩
  · intro v t u' _ _ hu'
    exact find_visit_le v hu hu'
  · intro v h
    exact find_visit_eq hu h
  · intro later u' hu'
    rw [served_append] at hu'
    exact find_serve_le hu later hu'
  · intro before after x b b' hx hb hb'
    exact sum?_insert_mono hx.le hb hb'

theorem balance_kept_by_early_deposit :
    let s := served (deposits crumbs)
    let v : Visit := { request := .addTransaction (.ofNumbers 9 1 7 1) }
    ∃ u u', s.find default = .ok u ∧ v.answer? s = some (.transaction (.ok (.ofNumbers 9 1 7 1))) ∧
      (v.after s).find default = .ok u' ∧ u.balance.value ≤ u'.balance.value := by
  intro s v
  have hu : s.find default = .ok ⟨default, (Amount.of? 79228162514264337593543950332 0).getD default⟩ := rfl
  have hu' : (v.after s).find default = .ok ⟨default, (Amount.of? 79228162514264337593543950333 0).getD default⟩ := rfl
  obtain ⟨hdeposit, -⟩ := balance_never_falls (deposits crumbs) hu
  exact ⟨_, _, hu, rfl, hu', hdeposit v _ _ rfl rfl hu'⟩

end Store

end Passbook
