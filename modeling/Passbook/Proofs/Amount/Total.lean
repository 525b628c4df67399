import Mathlib.Algebra.Order.BigOperators.Group.List
import Passbook.Proofs.Amount.Rounding

/-! Sums of amounts that are not negative, one addition after the other. A sum fails at the first amount that is too
much for the rounded sum of those before it. It is off by all that its additions have rounded, and none of them has
rounded just when each exact running total is the value of some amount. -/

namespace Passbook.Amount

def exactSum (bs : List Amount) : Rat := (bs.map value).sum

def roundings : Amount → List Amount → List Rat
  | _, [] => []
  | a, b :: bs =>
    match a.add? b with
    | none => []
    | some c => (c.value - (a.value + b.value)) :: roundings c bs

lemma exactSum_cons (b : Amount) (bs : List Amount) : exactSum (b :: bs) = b.value + exactSum bs := by
  simp [exactSum]

lemma roundings_cons {a b c : Amount} (bs : List Amount) (h : a.add? b = some c) :
    roundings a (b :: bs) = (c.value - (a.value + b.value)) :: roundings c bs := by
  simp [roundings, h]

section Runs

variable {a c : Amount} {bs : List Amount}

lemma foldlM_cons_some {b d : Amount} (h : a.add? b = some d) : (b :: bs).foldlM add? a = bs.foldlM add? d := by
  simp [List.foldlM_cons, h]

lemma foldlM_cons_none {b : Amount} (h : a.add? b = none) : (b :: bs).foldlM add? a = none := by
  simp [List.foldlM_cons, h]

lemma exists_of_foldlM_cons {b : Amount} (h : (b :: bs).foldlM add? a = some c) :
    ∃ d, a.add? b = some d ∧ bs.foldlM add? d = some c := by
  cases hd : a.add? b with
  | none => simp [foldlM_cons_none hd] at h
  | some d => exact ⟨d, rfl, foldlM_cons_some hd ▸ h⟩

lemma foldlM_isSome_iff (ha : 0 ≤ a.coefficient) (hbs : ∀ b ∈ bs, 0 ≤ b.coefficient) :
    (bs.foldlM add? a).isSome ↔ ∀ before b after, bs = before ++ b :: after →
      ∀ d, before.foldlM add? a = some d → d.value + b.value < (limit : Rat) - 1 / 2 := by
  induction bs generalizing a with
  | nil => simp
  | cons b bs ih =>
    obtain ⟨hb, hbs⟩ := List.forall_mem_cons.mp hbs
    cases hd : a.add? b with
    | none =>
      have hbig := (add?_eq_none_iff ha hb).mp hd
      simp only [foldlM_cons_none hd, Option.isSome_none, Bool.false_eq_true, false_iff]
      intro hall
      have hlt := hall [] b bs rfl a rfl
      exact absurd hbig hlt.not_ge
    | some d =>
      have hlt : a.value + b.value < (limit : Rat) - 1 / 2 := by
        rw [← not_le, ← add?_eq_none_iff ha hb, hd]
        simp
      rw [foldlM_cons_some hd, ih (coefficient_add?_nonneg ha hb hd) hbs]
      constructor
      · intro hall before x after hcut e he
        cases before with
        | nil =>
          obtain ⟨rfl, rfl⟩ := List.cons.inj hcut
          obtain rfl : a = e := by simpa using he
          exact hlt
        | cons y before =>
          obtain ⟨rfl, rfl⟩ := List.cons.inj hcut
          rw [foldlM_cons_some hd] at he
          exact hall before x after rfl e he
      · intro hall before x after hcut e he
        apply hall (b :: before) x after (by rw [hcut, List.cons_append]) e
        rw [foldlM_cons_some hd, he]

lemma value_foldlM (h : bs.foldlM add? a = some c) : c.value = a.value + exactSum bs + (roundings a bs).sum := by
  induction bs generalizing a with
  | nil =>
    obtain rfl : a = c := by simpa using h
    simp [exactSum, roundings]
  | cons b bs ih =>
    obtain ⟨d, hd, h⟩ := exists_of_foldlM_cons h
    rw [ih h, exactSum_cons, roundings_cons bs hd, List.sum_cons]
    ring

lemma abs_rounding_le (ha : 0 ≤ a.coefficient) (hbs : ∀ b ∈ bs, 0 ≤ b.coefficient) :
    ∀ r ∈ roundings a bs, |r| ≤ 1 / 2 := by
  induction bs generalizing a with
  | nil => simp [roundings]
  | cons b bs ih =>
    obtain ⟨hb, hbs⟩ := List.forall_mem_cons.mp hbs
    cases hd : a.add? b with
    | none => simp [roundings, hd]
    | some d =>
      rw [roundings_cons bs hd]
      exact List.forall_mem_cons.mpr ⟨abs_value_add?_sub_le ha hb hd, ih (coefficient_add?_nonneg ha hb hd) hbs⟩

lemma roundings_eq_zero_iff (ha : 0 ≤ a.coefficient) (hbs : ∀ b ∈ bs, 0 ≤ b.coefficient)
    (h : bs.foldlM add? a = some c) :
    (∀ r ∈ roundings a bs, r = 0) ↔ ∀ before, before <+: bs → Holds (a.value + exactSum before) := by
  induction bs generalizing a with
  | nil =>
    simp only [roundings, List.not_mem_nil, false_implies, implies_true, List.prefix_nil, true_iff]
    rintro _ rfl
    exact ⟨a, by simp [exactSum]⟩
  | cons b bs ih =>
    obtain ⟨hb, hbs⟩ := List.forall_mem_cons.mp hbs
    obtain ⟨d, hd, h⟩ := exists_of_foldlM_cons h
    have hd0 := coefficient_add?_nonneg ha hb hd
    rw [roundings_cons bs hd, List.forall_mem_cons, ih hd0 hbs h, sub_eq_zero, value_add?_iff ha hb hd]
    constructor
    · rintro ⟨hholds, hall⟩ before hpre
      cases before with
      | nil => exact ⟨a, by simp [exactSum]⟩
      | cons x before =>
        obtain ⟨rfl, hrest⟩ := List.cons_prefix_cons.mp hpre
        rw [exactSum_cons, ← add_assoc, ← (value_add?_iff ha hb hd).mpr hholds]
        exact hall before hrest
    · intro hall
      have hholds : Holds (a.value + b.value) := by
        have hone := hall [b] (List.cons_prefix_cons.mpr ⟨rfl, List.nil_prefix⟩)
        simpa [exactSum] using hone
      refine ⟨hholds, ?_⟩
      intro before hpre
      rw [(value_add?_iff ha hb hd).mpr hholds, add_assoc, ← exactSum_cons]
      exact hall (b :: before) (List.cons_prefix_cons.mpr ⟨rfl, hpre⟩)

lemma coefficient_foldlM_nonneg (ha : 0 ≤ a.coefficient) (hbs : ∀ b ∈ bs, 0 ≤ b.coefficient)
    (h : bs.foldlM add? a = some c) : 0 ≤ c.coefficient := by
  induction bs generalizing a with
  | nil =>
    obtain rfl : a = c := by simpa using h
    exact ha
  | cons b bs ih =>
    obtain ⟨hb, hbs⟩ := List.forall_mem_cons.mp hbs
    obtain ⟨d, hd, h⟩ := exists_of_foldlM_cons h
    exact ih (coefficient_add?_nonneg ha hb hd) hbs h

lemma abs_value_foldlM_sub_le (ha : 0 ≤ a.coefficient) (hbs : ∀ b ∈ bs, 0 ≤ b.coefficient)
    (h : bs.foldlM add? a = some c) : |c.value - (a.value + exactSum bs)| ≤ bs.length / 2 := by
  induction bs generalizing a with
  | nil =>
    obtain rfl : a = c := by simpa using h
    simp [exactSum]
  | cons b bs ih =>
    obtain ⟨hb, hbs⟩ := List.forall_mem_cons.mp hbs
    obtain ⟨d, hd, h⟩ := exists_of_foldlM_cons h
    have hfirst := abs_value_add?_sub_le ha hb hd
    have hrest := ih (coefficient_add?_nonneg ha hb hd) hbs h
    rw [exactSum_cons, List.length_cons]
    push_cast
    rw [abs_le] at *
    constructor <;> linarith

lemma value_foldlM_of_holds (ha : 0 ≤ a.coefficient) (hbs : ∀ b ∈ bs, 0 ≤ b.coefficient)
    (hheld : ∀ before, before <+: bs → a.value + exactSum before < (limit : Rat) - 1 / 2 →
      Holds (a.value + exactSum before))
    (h : bs.foldlM add? a = some c) : c.value = a.value + exactSum bs := by
  induction bs generalizing a with
  | nil =>
    obtain rfl : a = c := by simpa using h
    simp [exactSum]
  | cons b bs ih =>
    obtain ⟨hb, hbs⟩ := List.forall_mem_cons.mp hbs
    obtain ⟨d, hd, h⟩ := exists_of_foldlM_cons h
    have hlt : a.value + b.value < (limit : Rat) - 1 / 2 := by
      rw [← not_le, ← add?_eq_none_iff ha hb, hd]
      simp
    have hone : exactSum [b] = b.value := by simp [exactSum]
    have hfirst := hheld [b] (List.cons_prefix_cons.mpr ⟨rfl, List.nil_prefix⟩)
    rw [hone] at hfirst
    have hv : d.value = a.value + b.value := (value_add?_iff ha hb hd).mpr (hfirst hlt)
    rw [exactSum_cons, ← add_assoc, ← hv]
    apply ih (coefficient_add?_nonneg ha hb hd) hbs ?_ h
    intro before hpre
    rw [hv, add_assoc, ← exactSum_cons]
    exact hheld (b :: before) (List.cons_prefix_cons.mpr ⟨rfl, hpre⟩)

end Runs

section Sums

variable {bs : List Amount}

lemma value_zero : zero.value = 0 := value_of_coefficient_eq_zero rfl

theorem sum?_isSome_iff (hbs : ∀ b ∈ bs, 0 ≤ b.coefficient) :
    (sum? bs).isSome ↔ ∀ before b after, bs = before ++ b :: after →
      ∀ d, sum? before = some d → d.value + b.value < (limit : Rat) - 1 / 2 :=
  foldlM_isSome_iff (le_refl 0) hbs

theorem value_sum? {c : Amount} (h : sum? bs = some c) : c.value = exactSum bs + (roundings zero bs).sum := by
  rw [value_foldlM h, value_zero, zero_add]

theorem roundings_sum?_eq_zero_iff (hbs : ∀ b ∈ bs, 0 ≤ b.coefficient) {c : Amount} (h : sum? bs = some c) :
    (∀ r ∈ roundings zero bs, r = 0) ↔ ∀ before, before <+: bs → Holds (exactSum before) := by
  have hiff := roundings_eq_zero_iff (le_refl 0) hbs h
  simpa [value_zero] using hiff

lemma exactSum_append (xs ys : List Amount) : exactSum (xs ++ ys) = exactSum xs + exactSum ys := by
  simp [exactSum]

lemma exactSum_nonneg (hbs : ∀ b ∈ bs, 0 ≤ b.coefficient) : 0 ≤ exactSum bs := by
  apply List.sum_nonneg
  intro q hq
  obtain ⟨b, hb, rfl⟩ := List.mem_map.mp hq
  exact value_nonneg (hbs b hb)

lemma exists_coefficient {scale : Nat} (hbs : ∀ b ∈ bs, 0 ≤ b.coefficient ∧ b.scale ≤ scale) :
    ∃ n : Nat, exactSum bs = n / 10 ^ scale := by
  induction bs with
  | nil => exact ⟨0, by simp [exactSum]⟩
  | cons b bs ih =>
    obtain ⟨⟨hb, hs⟩, hbs⟩ := List.forall_mem_cons.mp hbs
    obtain ⟨n, hn⟩ := ih hbs
    obtain ⟨m, hm⟩ := Int.eq_ofNat_of_zero_le (coefficientAt_nonneg hb scale)
    refine ⟨m + n, ?_⟩
    rw [exactSum_cons, hn, ← value_coefficientAt hs, hm]
    push_cast
    ring

lemma holds_of_lt {n scale : Nat} (hn : n < limit) (hs : scale ≤ maxScale) : Holds (n / 10 ^ scale) :=
  ⟨⟨n, scale, hn, hs⟩, by simp [value_eq_div]⟩

structure Fits (scale : Nat) (bs : List Amount) : Prop where
  nonneg : ∀ b ∈ bs, 0 ≤ b.coefficient
  scale_le : ∀ b ∈ bs, b.scale ≤ scale
  lt_limit : exactSum bs * 10 ^ scale < limit

namespace Fits

variable {scale : Nat}

lemma of_subperm (h : Fits scale bs) {xs : List Amount} (hsub : xs.Subperm bs) : Fits scale xs where
  nonneg b hb := h.nonneg b (hsub.subset hb)
  scale_le b hb := h.scale_le b (hsub.subset hb)
  lt_limit := by
    obtain ⟨zs, hzs, hsub⟩ := hsub
    obtain ⟨ys, hys⟩ := hsub.exists_perm_append
    have hys : bs.Perm (xs ++ ys) := hys.trans (hzs.append_right ys)
    have hsum : exactSum bs = exactSum xs + exactSum ys := by
      rw [← exactSum_append]
      exact (hys.map value).sum_eq
    have hrest : 0 ≤ exactSum ys := by
      apply exactSum_nonneg
      intro b hb
      exact h.nonneg b (hys.mem_iff.mpr (List.mem_append_right xs hb))
    have hpow : (0 : Rat) ≤ 10 ^ scale := by positivity
    calc exactSum xs * 10 ^ scale ≤ exactSum bs * 10 ^ scale := by rw [hsum]; nlinarith
      _ < limit := h.lt_limit

lemma of_prefix (h : Fits scale bs) {xs : List Amount} (hpre : xs <+: bs) : Fits scale xs :=
  h.of_subperm hpre.sublist.subperm

lemma holds (h : Fits scale bs) (hs : scale ≤ maxScale) : Holds (exactSum bs) := by
  obtain ⟨n, hn⟩ := exists_coefficient fun b hb => ⟨h.nonneg b hb, h.scale_le b hb⟩
  have hlt : (n : Rat) < limit := by
    have hlimit := h.lt_limit
    rwa [hn, div_mul_cancel₀ _ (by positivity)] at hlimit
  rw [hn]
  exact holds_of_lt (by exact_mod_cast hlt) hs

lemma value_sum? (h : Fits scale bs) (hs : scale ≤ maxScale) {c : Amount} (hc : sum? bs = some c) :
    c.value = exactSum bs := by
  have hzero : ∀ r ∈ roundings zero bs, r = 0 := by
    rw [roundings_sum?_eq_zero_iff h.nonneg hc]
    intro xs hpre
    exact (h.of_prefix hpre).holds hs
  rw [Amount.value_sum? hc, List.sum_eq_zero hzero, add_zero]

lemma isSome_sum? (h : Fits scale bs) (hs : scale ≤ maxScale) : (sum? bs).isSome := by
  rw [sum?_isSome_iff h.nonneg]
  rintro before b after rfl d hd
  have hd' : d.value = exactSum before := (h.of_prefix ⟨b :: after, rfl⟩).value_sum? hs hd
  have hnext : before ++ [b] <+: before ++ b :: after := ⟨after, by simp⟩
  obtain ⟨c, hc⟩ := (h.of_prefix hnext).holds hs
  have hsum : d.value + b.value = c.value := by
    rw [hc, hd', exactSum_append]
    simp [exactSum]
  have hmax := c.value_le_max
  linarith

end Fits

def largestScale (bs : List Amount) : Nat := (bs.map scale).foldr Nat.max 0

/-- Amounts whose exact sum, written at the largest scale among them, has a coefficient of at most 96 bits. -/
def FitTogether (bs : List Amount) : Prop := exactSum bs * 10 ^ largestScale bs < limit

lemma scale_le_largestScale {b : Amount} (hb : b ∈ bs) : b.scale ≤ largestScale bs := by
  induction bs with
  | nil => cases hb
  | cons x bs ih =>
    rcases List.mem_cons.mp hb with rfl | hb
    · exact Nat.le_max_left _ _
    · exact Nat.le_trans (ih hb) (Nat.le_max_right _ _)

lemma largestScale_le (bs : List Amount) : largestScale bs ≤ maxScale := by
  induction bs with
  | nil => exact Nat.zero_le _
  | cons b bs ih => exact Nat.max_le.mpr ⟨b.scale_le, ih⟩

lemma FitTogether.fits (h : FitTogether bs) (hbs : ∀ b ∈ bs, 0 ≤ b.coefficient) : Fits (largestScale bs) bs :=
  ⟨hbs, fun _ => scale_le_largestScale, h⟩

end Sums

end Passbook.Amount
