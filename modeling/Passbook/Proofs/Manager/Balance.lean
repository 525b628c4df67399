import Passbook.Proofs.Amount.Total
import Passbook.Proofs.Manager.Session

/-! What the balance of a user can be after calls of the ledger. Sums go through the history in its order, and a
record is accepted against the sum of the history without it, so a record that is put between others can make sums
round in other ways. -/

namespace Passbook.Store

open Amount

def amounts (s : Store) (user : UserId) : List Amount := (s.history user).map Transaction.amount

lemma total?_of_account? {s : Store} {user : UserId} {a : Account} (h : s.account? user = some a) :
    a.total? = sum? (s.amounts user) := by
  rw [amounts, history_of_account? h]
  rfl

lemma find_eq_ok_iff {s : Store} {user : UserId} {u : User} :
    s.find user = .ok u ↔ s.isRegistered user ∧ u.id = user ∧ sum? (s.amounts user) = some u.balance := by
  unfold find isRegistered
  cases ha : s.account? user with
  | none => simp
  | some a =>
    rw [← total?_of_account? ha]
    cases u
    cases ht : a.total? <;> simp [ht, eq_comm]

lemma exists_find_iff {s : Store} {user : UserId} (h : s.isRegistered user) :
    (∃ u, s.find user = .ok u) ↔ (sum? (s.amounts user)).isSome := by
  rw [Option.isSome_iff_exists]
  constructor
  · rintro ⟨u, hu⟩
    exact ⟨u.balance, (find_eq_ok_iff.mp hu).2.2⟩
  · rintro ⟨b, hb⟩
    exact ⟨⟨user, b⟩, find_eq_ok_iff.mpr ⟨h, rfl, hb⟩⟩

lemma Sound.amounts_nonneg {s : Store} (hs : s.Sound) (user : UserId) : ∀ b ∈ s.amounts user, 0 ≤ b.coefficient := by
  intro b hb
  obtain ⟨t, ht, rfl⟩ := List.mem_map.mp hb
  have hpos : 0 < t.amount.coefficient := by
    simpa [Transaction.isValid, Amount.isPositive] using hs.valid t (hs.mem_history_iff.mp ht).1
  exact hpos.le

lemma exists_find_of_last {s : Store} {t : Transaction} (h : s.refusal? t = none)
    (hlast : ∀ r ∈ s.history t.userId, r.isBefore t) : ∃ u, (s.put t).find t.userId = .ok u := by
  obtain ⟨a, ha, -, b, hb, hadd⟩ := refusal?_eq_none_iff.mp h
  obtain ⟨c, hc⟩ := Option.isSome_iff_exists.mp hadd
  have hput := account?_put_self ha
  have hreg : (s.put t).isRegistered t.userId := Option.isSome_iff_exists.mpr ⟨_, hput⟩
  have hhistory : (a.insert t).history = a.history ++ [t] := by
    rw [history_of_account? ha] at hlast
    exact Account.history_insert_of_cut (List.append_nil _).symm hlast (by simp)
  have htotal : (a.insert t).total? = some c := by
    rw [Account.total?, Account.amounts, hhistory, List.map_append, sum?_append]
    change (a.total?.bind fun b => [t.amount].foldlM add? b) = some c
    rw [hb, Option.bind_some, foldlM_cons_some hc]
    rfl
  rw [exists_find_iff hreg, ← total?_of_account? hput, htotal]
  rfl

/-- A user can be read just when no record is too much for the rounded sum of the records before it in order, which
is not what it was accepted against. It always can if the exact sum has a coefficient over one scale of all amounts,
and after a deposit that is accepted in a place behind all others. -/
theorem readable_iff_running_totals (visits : List Visit) {user : UserId} (hreg : (served visits).isRegistered user) :
    let s := served visits
    ((∃ u, s.find user = .ok u) ↔ ∀ before t after, s.history user = before ++ t :: after →
      ∀ b, sum? (before.map Transaction.amount) = some b → b.value + t.amount.value < (limit : Rat) - 1 / 2) ∧
    (∀ scale ≤ maxScale, (∀ b ∈ s.amounts user, b.scale ≤ scale) →
      exactSum (s.amounts user) * 10 ^ scale < limit → ∃ u, s.find user = .ok u) ∧
    ∀ t, t.userId = user → (s.record t).1 = .ok () → (∀ r ∈ s.history user, r.isBefore t) →
      ∃ u, (s.record t).2.find user = .ok u := by
  intro s
  have hnonneg : ∀ b ∈ s.amounts user, 0 ≤ b.coefficient := (sound_served visits).amounts_nonneg user
  refine ⟨?_, ?_, ?_⟩
  · rw [exists_find_iff hreg, sum?_isSome_iff hnonneg]
    constructor
    · intro hall before t after hcut
      apply hall (before.map Transaction.amount) t.amount (after.map Transaction.amount)
      rw [amounts, hcut, List.map_append, List.map_cons]
    · intro hall before b after hcut
      obtain ⟨xs, ys, hxs, rfl, hys⟩ := List.map_eq_append_iff.mp hcut
      obtain ⟨t, ts, rfl, rfl, rfl⟩ := List.map_eq_cons_iff.mp hys
      exact hall xs t ts hxs
  · intro scale hscale hscales hsmall
    have hfits : Fits scale (s.amounts user) := ⟨hnonneg, hscales, hsmall⟩
    exact (exists_find_iff hreg).mpr (hfits.isSome_sum? hscale)
  · rintro t rfl hok hlast
    cases href : s.refusal? t with
    | none =>
      rw [record_of_accepted href]
      exact exists_find_of_last href hlast
    | some e =>
      rw [record_of_refused href] at hok
      cases hok

def deposits (ts : List Transaction) : List Visit :=
  { request := .createUser default } :: ts.map fun t => { request := .addTransaction t }

def tenths : List Transaction := [.ofNumbers 1 10 1 1, .ofNumbers 2 20 2 1]

theorem readable_after_later_deposit :
    ∃ u, ((served (deposits tenths)).record (.ofNumbers 3 30 5 0)).2.find default = .ok u := by
  have hreg : (served (deposits tenths)).isRegistered default := by decide
  obtain ⟨-, -, hlast⟩ := readable_iff_running_totals (deposits tenths) hreg
  exact hlast _ rfl rfl (by decide)

/-- The last two deposits are the first in the history. At the end of a sum, where they are accepted, they round away;
at its start they are half a unit and more, and all later additions round up. -/
def dated : List Transaction :=
  [.ofNumbers 1 10 79228162514264337593543950333 0, .ofNumbers 2 20 6 1, .ofNumbers 3 21 6 1, .ofNumbers 4 1 3 1,
    .ofNumbers 5 2 3 1]

theorem unreadable_after_accepted_deposits :
    let s := served (deposits dated)
    s.isRegistered default ∧ s.transactionCount = 5 ∧ exactSum (s.amounts default) < Amount.max.value ∧
      s.find default = .error (.balanceOverflow default) ∧
      Visit.answer? { request := .balance default } s =
        some (.balance (.error (.storage (.balanceOverflow default)))) := by
  exact ⟨rfl, rfl, by decide +kernel, rfl, rfl⟩

section Unreadable

lemma total?_isSome_of_refusal? {s : Store} {t : Transaction} {a : Account} (h : s.refusal? t = none)
    (ha : s.account? t.userId = some a) : a.total?.isSome := by
  obtain ⟨b, hb, -, c, hc, -⟩ := refusal?_eq_none_iff.mp h
  obtain rfl : b = a := by simpa [ha] using hb.symm
  exact Option.isSome_iff_exists.mpr ⟨c, hc⟩

lemma account?_visit {s : Store} {user : UserId} {a : Account} (ha : s.account? user = some a) (ht : a.total? = none)
    (v : Visit) : (v.after s).account? user = some a := by
  rcases v.after_cases s with h | ⟨other, -, -, h⟩ | ⟨t, -, -, hr, h⟩ <;> rw [h]
  · exact ha
  · exact account?_register ha other
  · apply account?_put_of_ne ha
    rintro rfl
    have hsome := total?_isSome_of_refusal? hr ha
    simp [ht] at hsome

theorem unreadable_for_good {s : Store} {user : UserId} {a : Account} (ha : s.account? user = some a)
    (ht : a.total? = none) (visits : List Visit) :
    (visits.foldl (fun s v => v.after s) s).find user = .error (.balanceOverflow user) ∧
      (visits.foldl (fun s v => v.after s) s).history user = s.history user := by
  induction visits generalizing s with
  | nil => exact ⟨by simp [find, ha, ht], rfl⟩
  | cons v visits ih =>
    have hv := account?_visit ha ht v
    obtain ⟨hfind, hhistory⟩ := ih hv
    exact ⟨hfind, by rw [List.foldl_cons, hhistory, history_of_account? hv, history_of_account? ha]⟩

end Unreadable

/-- A balance is off by what its additions round, at most half a unit each. It is exact just when these cancel; none
of them rounds just when an amount can hold every exact running total, as it can if the coefficient of the exact sum
over one scale of all the amounts is small enough. -/
theorem balance_exact_iff (visits : List Visit) {user : UserId} {u : User}
    (hu : (served visits).find user = .ok u) :
    let as := (served visits).amounts user
    (u.balance.value = exactSum as ↔ (roundings zero as).sum = 0) ∧
    ((∀ r ∈ roundings zero as, r = 0) ↔ ∀ before, before <+: as → Holds (exactSum before)) ∧
    (∀ r ∈ roundings zero as, |r| ≤ 1 / 2) ∧
    ∀ scale ≤ maxScale, (∀ b ∈ as, b.scale ≤ scale) → exactSum as * 10 ^ scale < limit →
      u.balance.value = exactSum as := by
  intro as
  have hnonneg : ∀ b ∈ as, 0 ≤ b.coefficient := (sound_served visits).amounts_nonneg user
  have hsum : sum? as = some u.balance := (find_eq_ok_iff.mp hu).2.2
  refine ⟨?_, roundings_sum?_eq_zero_iff hnonneg hsum, abs_rounding_le (le_refl 0) hnonneg, ?_⟩
  · rw [value_sum? hsum]
    exact add_eq_left
  · intro scale hscale hscales hsmall
    have hfits : Fits scale as := ⟨hnonneg, hscales, hsmall⟩
    exact hfits.value_sum? hscale hsum

theorem balance_exact_of_tenths :
    ∃ u, (served (deposits tenths)).find default = .ok u ∧ u.balance.value = 3 / 10 := by
  have hu : (served (deposits tenths)).find default = .ok ⟨default, (Amount.of? 3 1).getD default⟩ := rfl
  obtain ⟨-, -, -, hexact⟩ := balance_exact_iff (deposits tenths) hu
  refine ⟨_, hu, (hexact 1 (by decide) (by decide) (by decide +kernel)).trans ?_⟩
  decide +kernel

/-- Deposits of a unit in all, too small one by one to be added to a large balance. -/
def crumbs : List Transaction :=
  [.ofNumbers 1 10 79228162514264337593543950332 0, .ofNumbers 2 20 4 1, .ofNumbers 3 21 4 1, .ofNumbers 4 22 2 1]

theorem balance_misses_a_unit :
    let s := served (deposits crumbs)
    s.transactionCount = 4 ∧ exactSum (s.amounts default) = 79228162514264337593543950333 ∧
      ∃ u, s.find default = .ok u ∧ u.balance.value = 79228162514264337593543950332 :=
  ⟨rfl, by decide +kernel, _, rfl, by decide +kernel⟩

end Passbook.Store
