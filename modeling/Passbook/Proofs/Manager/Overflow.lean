import Passbook.Proofs.Amount.Normal
import Passbook.Proofs.Manager.Balance

/-! When a deposit is refused because it is too much. The guard adds the amount to the rounded sum of the history, so a
refusal is off by what the additions of the history round, and by the half unit that the last addition may drop. It is
exact for whole amounts. -/

namespace Passbook

namespace Amount

section Prefixes

variable {bs before after : List Amount} {x y : Amount}

lemma nonneg_concat (hbs : ∀ b ∈ bs, 0 ≤ b.coefficient) (hx : 0 ≤ x.coefficient) :
    ∀ b ∈ bs ++ [x], 0 ≤ b.coefficient := by
  simpa [or_imp, forall_and] using And.intro hbs hx

lemma exactSum_concat (bs : List Amount) (x : Amount) : exactSum (bs ++ [x]) = exactSum bs + x.value := by
  rw [exactSum_append, exactSum_cons]
  simp [exactSum]

lemma exactSum_le_exactSum (hbs : ∀ b ∈ bs, 0 ≤ b.coefficient) (hpre : before <+: bs) :
    exactSum before ≤ exactSum bs := by
  obtain ⟨after, rfl⟩ := hpre
  rw [exactSum_append]
  exact le_add_of_nonneg_right (exactSum_nonneg fun b hb => hbs b (List.mem_append_right _ hb))

lemma prefixes_of_cut (hcut : bs ++ [x] = before ++ y :: after) : before <+: bs ∧ before ++ [y] <+: bs ++ [x] := by
  have hnext : before ++ [y] <+: bs ++ [x] := ⟨after, by simp [hcut]⟩
  have hlen := hnext.length_le
  simp only [List.length_append, List.length_cons, List.length_nil, Nat.add_le_add_iff_right] at hlen
  have hbefore := (List.prefix_append before [y]).trans hnext
  exact ⟨List.prefix_of_prefix_length_le hbefore (List.prefix_append bs [x]) hlen, hnext⟩

end Prefixes

section Guard

variable {bs : List Amount} {b x : Amount}

def HeldBelowLimit (bs : List Amount) : Prop :=
  ∀ before, before <+: bs → exactSum before < (limit : Rat) - 1 / 2 → Holds (exactSum before)

lemma HeldBelowLimit.of_prefix (h : HeldBelowLimit bs) {xs : List Amount} (hpre : xs <+: bs) : HeldBelowLimit xs :=
  fun before hbefore => h before (hbefore.trans hpre)

lemma HeldBelowLimit.value_sum? (h : HeldBelowLimit bs) (hbs : ∀ b ∈ bs, 0 ≤ b.coefficient)
    (hb : sum? bs = some b) : b.value = exactSum bs := by
  have hheld : ∀ before, before <+: bs → zero.value + exactSum before < (limit : Rat) - 1 / 2 →
      Holds (zero.value + exactSum before) := by
    intro before hpre
    rw [value_zero, zero_add]
    exact h before hpre
  rw [value_foldlM_of_holds (le_refl 0) hbs hheld hb, value_zero, zero_add]

lemma abs_value_sum?_sub_le (hbs : ∀ b ∈ bs, 0 ≤ b.coefficient) (hb : sum? bs = some b) :
    |b.value - exactSum bs| ≤ bs.length / 2 := by
  have hle := abs_value_foldlM_sub_le (a := zero) (le_refl 0) hbs hb
  rwa [value_zero, zero_add] at hle

lemma sum?_concat (bs : List Amount) (x : Amount) : sum? (bs ++ [x]) = (sum? bs).bind fun b => b.add? x := by
  rw [sum?_append]
  congr 1
  funext b
  cases h : b.add? x with
  | none => rw [foldlM_cons_none h]
  | some c =>
    rw [foldlM_cons_some h]
    rfl

lemma sum?_concat_of_some (hbs : ∀ b ∈ bs, 0 ≤ b.coefficient) (hx : 0 ≤ x.coefficient) (hb : sum? bs = some b) :
    sum? (bs ++ [x]) = none ↔ (limit : Rat) - 1 / 2 ≤ b.value + x.value := by
  rw [sum?_concat, hb, Option.bind_some]
  exact add?_eq_none_iff (coefficient_foldlM_nonneg (le_refl 0) hbs hb) hx

lemma sum?_concat_eq_none_iff (hbs : ∀ b ∈ bs, 0 ≤ b.coefficient) (hx : 0 ≤ x.coefficient) :
    sum? (bs ++ [x]) = none ↔ ∃ before y after, bs ++ [x] = before ++ y :: after ∧
      ∃ b, sum? before = some b ∧ (limit : Rat) - 1 / 2 ≤ b.value + y.value := by
  rw [← Option.not_isSome_iff_eq_none, sum?_isSome_iff (nonneg_concat hbs hx)]
  push Not
  rfl

lemma sum?_concat_eq_none_iff_of_held (h : HeldBelowLimit bs) (hbs : ∀ b ∈ bs, 0 ≤ b.coefficient)
    (hx : 0 ≤ x.coefficient) : sum? (bs ++ [x]) = none ↔ (limit : Rat) - 1 / 2 ≤ exactSum bs + x.value := by
  cases hb : sum? bs with
  | some b => rw [sum?_concat_of_some hbs hx hb, h.value_sum? hbs hb]
  | none =>
    refine iff_of_true (by rw [sum?_concat, hb]; rfl) ?_
    obtain ⟨before, y, after, hcut, b, hb, hbig⟩ :=
      (sum?_concat_eq_none_iff hbs hx).mp (by rw [sum?_concat, hb]; rfl)
    obtain ⟨hpre, hnext⟩ := prefixes_of_cut hcut
    rw [(h.of_prefix hpre).value_sum? (fun b hb => hbs b (hpre.subset hb)) hb, ← exactSum_concat] at hbig
    rw [← exactSum_concat]
    exact hbig.trans (exactSum_le_exactSum (nonneg_concat hbs hx) hnext)

lemma le_exactSum_of_sum?_eq_none (hbs : ∀ b ∈ bs, 0 ≤ b.coefficient) (hx : 0 ≤ x.coefficient)
    (h : sum? (bs ++ [x]) = none) : (limit : Rat) - 1 / 2 ≤ exactSum bs + x.value + bs.length / 2 := by
  obtain ⟨before, y, after, hcut, b, hb, hbig⟩ := (sum?_concat_eq_none_iff hbs hx).mp h
  obtain ⟨hpre, hnext⟩ := prefixes_of_cut hcut
  have hnear := (abs_le.mp (abs_value_sum?_sub_le (fun b hb => hbs b (hpre.subset hb)) hb)).2
  have hlen : (before.length : Rat) ≤ bs.length := by exact_mod_cast hpre.length_le
  have hsum := exactSum_le_exactSum (nonneg_concat hbs hx) hnext
  rw [exactSum_concat, exactSum_concat] at hsum
  linarith

lemma sum?_eq_none_of_le_exactSum (hbs : ∀ b ∈ bs, 0 ≤ b.coefficient) (hx : 0 ≤ x.coefficient)
    (h : (limit : Rat) - 1 / 2 + bs.length / 2 ≤ exactSum bs + x.value) : sum? (bs ++ [x]) = none := by
  cases hb : sum? bs with
  | none =>
    rw [sum?_concat, hb]
    rfl
  | some b =>
    have hnear := (abs_le.mp (abs_value_sum?_sub_le hbs hb)).1
    rw [sum?_concat_of_some hbs hx hb]
    linarith

end Guard

section Whole

variable {bs : List Amount}

lemma exists_exactSum_eq_nat (hbs : ∀ b ∈ bs, ∃ n : Nat, b.value = n) : ∃ n : Nat, exactSum bs = n := by
  induction bs with
  | nil => exact ⟨0, by simp [exactSum]⟩
  | cons b bs ih =>
    obtain ⟨⟨m, hm⟩, hbs⟩ := List.forall_mem_cons.mp hbs
    obtain ⟨n, hn⟩ := ih hbs
    exact ⟨m + n, by rw [exactSum_cons, hm, hn, Nat.cast_add]⟩

lemma heldBelowLimit_of_whole (hbs : ∀ b ∈ bs, ∃ n : Nat, b.value = n) : HeldBelowLimit bs := by
  intro before hpre hlt
  obtain ⟨n, hn⟩ := exists_exactSum_eq_nat fun b hb => hbs b (hpre.subset hb)
  rw [hn] at hlt ⊢
  have hcast : (n : Rat) < limit := by linarith
  have hheld : Holds (n / 10 ^ 0) := holds_of_lt (by exact_mod_cast hcast) (Nat.zero_le _)
  rwa [pow_zero, div_one] at hheld

lemma limit_sub_half_le_iff (n : Nat) : (limit : Rat) - 1 / 2 ≤ n ↔ max.value < n := by
  have hmax : max.value + 1 = (limit : Rat) := by decide +kernel
  constructor
  · intro h
    linarith
  · intro h
    have hle : (limit : Rat) < (n + 1 : Nat) := by
      push_cast
      linarith
    have hle : (limit : Rat) ≤ n := by exact_mod_cast Nat.lt_succ_iff.mp (by exact_mod_cast hle)
    linarith

end Whole

end Amount

namespace Store

open Amount

lemma refusal?_of_new {s : Store} {t : Transaction} (hreg : s.isRegistered t.userId) (hnew : ¬ s.isRecorded t.id) :
    s.refusal? t =
      if sum? (s.amounts t.userId ++ [t.amount]) = none then some (.balanceOverflow t.userId) else none := by
  obtain ⟨a, ha⟩ := Option.isSome_iff_exists.mp hreg
  rw [sum?_concat, ← total?_of_account? ha]
  simp [refusal?, ha, hnew]

lemma addTransaction_of_new {s : Store} {t : Transaction} (hv : t.isValid) (hreg : s.isRegistered t.userId)
    (hnew : ¬ s.isRecorded t.id) : (Ledger.addTransaction none t s).1 =
      if sum? (s.amounts t.userId ++ [t.amount]) = none then .error (.storage (.balanceOverflow t.userId))
      else .ok t := by
  have href := refusal?_of_new hreg hnew
  split at href
  · next h =>
    rw [Ledger.addTransaction_of_refused hv href, if_pos h]
    rfl
  · next h => rw [Ledger.addTransaction_of_accepted hv href, if_neg h]

/-- A new deposit of a registered user is refused for its amount, and for nothing else, just when one addition of the
history and the amount behind it comes to half a unit more than the largest amount. As long as no addition rounds, that
is when the exact sum does, and if all amounts are whole, when it is larger than the largest amount; else the refusal
is early or late by at most half a unit for each record. -/
theorem overflow_refused_iff (visits : List Visit) {v : Visit} {t : Transaction} (hreq : v.request = .addTransaction t)
    (hun : v.IsUnfired) (hv : t.isValid) (hreg : (served visits).isRegistered t.userId)
    (hnew : ¬ (served visits).isRecorded t.id) :
    let s := served visits
    let as := s.amounts t.userId
    let sum := exactSum as + t.amount.value
    let refused := v.answer? s = some (.transaction (.error (.storage (.balanceOverflow t.userId))))
    (¬ refused → v.answer? s = some (.transaction (.ok t))) ∧
    (refused ↔ ∃ before x after, as ++ [t.amount] = before ++ x :: after ∧
      ∃ b, sum? before = some b ∧ max.value + 1 / 2 ≤ b.value + x.value) ∧
    (HeldBelowLimit as → (refused ↔ max.value + 1 / 2 ≤ sum)) ∧
    (∀ scale ≤ maxScale, (∀ b ∈ as, b.scale ≤ scale) → exactSum as * 10 ^ scale < limit → HeldBelowLimit as) ∧
    ((∀ b ∈ as ++ [t.amount], ∃ n : Nat, b.value = n) → (refused ↔ max.value < sum)) ∧
    (refused → max.value + 1 / 2 ≤ sum + as.length / 2) ∧
    (max.value + 1 / 2 + as.length / 2 ≤ sum → refused) := by
  intro s as sum refused
  have has : ∀ b ∈ as, 0 ≤ b.coefficient := (sound_served visits).amounts_nonneg t.userId
  have hx : 0 ≤ t.amount.coefficient := value_nonneg_iff.mp (isPositive_iff.mp hv).le
  have hanswer : v.answer? s = some (.transaction (Ledger.addTransaction none t s).1) := by
    rw [v.answer?_eq, hreq, hun]
    rfl
  rw [addTransaction_of_new hv hreg hnew] at hanswer
  have hrefused : refused ↔ sum? (as ++ [t.amount]) = none := by
    change v.answer? s = _ ↔ _
    rw [hanswer]
    by_cases h : sum? (as ++ [t.amount]) = none <;> simp [as, s, h]
  have hmax : max.value + 1 / 2 = (limit : Rat) - 1 / 2 := by decide +kernel
  rw [hmax, hrefused]
  refine ⟨?_, ?_, ?_, ?_, ?_, ?_, ?_⟩
  · intro h
    rw [hanswer, if_neg h]
  · exact sum?_concat_eq_none_iff has hx
  · intro h
    exact sum?_concat_eq_none_iff_of_held h has hx
  · intro scale hscale hscales hsmall before hpre _
    have hfits : Fits scale as := ⟨has, hscales, hsmall⟩
    exact (hfits.of_prefix hpre).holds hscale
  · intro hwhole
    have hheld := HeldBelowLimit.of_prefix (heldBelowLimit_of_whole hwhole) (List.prefix_append _ _)
    obtain ⟨n, hn⟩ := exists_exactSum_eq_nat hwhole
    rw [exactSum_concat] at hn
    rw [sum?_concat_eq_none_iff_of_held hheld has hx, hn, limit_sub_half_le_iff]
    change _ ↔ _ < exactSum as + t.amount.value
    rw [hn]
  · exact le_exactSum_of_sum?_eq_none has hx
  · exact sum?_eq_none_of_le_exactSum has hx

def full : List Transaction := [.ofNumbers 1 10 79228162514264337593543950335 0]

theorem unit_refused_when_full :
    Visit.answer? { request := .addTransaction (.ofNumbers 2 20 1 0) } (served (deposits full)) =
      some (.transaction (.error (.storage (.balanceOverflow default)))) := by
  obtain ⟨-, -, -, -, hwhole, -⟩ := overflow_refused_iff (deposits full) (t := .ofNumbers 2 20 1 0)
    (v := { request := .addTransaction (.ofNumbers 2 20 1 0) }) rfl rfl rfl rfl (by decide)
  refine (hwhole ?_).mpr (by decide +kernel)
  intro b hb
  have hlist : (served (deposits full)).amounts default ++ [(Transaction.ofNumbers 2 20 1 0).amount] =
    [Amount.max, (Amount.of? 1 0).getD default] := rfl
  rcases List.mem_pair.mp (hlist ▸ hb) with rfl | rfl
  · exact ⟨79228162514264337593543950335, by decide +kernel⟩
  · exact ⟨1, by decide +kernel⟩

def roundedUp : List Transaction :=
  [.ofNumbers 1 10 79228162514264337593543950333 0, .ofNumbers 2 20 6 1, .ofNumbers 3 21 6 1]

theorem fractions_near_max_misjudged :
    (let s := served (deposits full)
     let t : Transaction := .ofNumbers 2 20 4 1
     Amount.max.value < exactSum (s.amounts default) + t.amount.value ∧
       Visit.answer? { request := .addTransaction t } s = some (.transaction (.ok t))) ∧
    (let s := served (deposits roundedUp)
     let t : Transaction := .ofNumbers 4 22 6 1
     exactSum (s.amounts default) + t.amount.value < Amount.max.value ∧
       Visit.answer? { request := .addTransaction t } s =
         some (.transaction (.error (.storage (.balanceOverflow default))))) :=
  ⟨⟨by decide +kernel, rfl⟩, by decide +kernel, rfl⟩

end Store

end Passbook
