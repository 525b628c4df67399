import Mathlib.Algebra.Order.Field.Rat
import Mathlib.Algebra.Order.Field.Basic
import Mathlib.Data.Rat.Cast.Order
import Mathlib.Tactic.FieldSimp
import Mathlib.Tactic.Linarith
import Mathlib.Tactic.Ring
import Passbook.Amount.Sum

/-! Sums of two amounts as rational numbers. A sum of amounts that are not negative overflows just when it reaches
the largest amount and a half, and it is exact just when some amount has the exact value. -/

namespace Passbook.Amount

section Quotients

lemma roundHalfEven_of_dvd {n d q : Nat} (hd : 0 < d) (h : n = q * d) : roundHalfEven n d = q := by
  subst h
  simp [roundHalfEven, Nat.mul_mod_left, Nat.mul_div_cancel q hd, Nat.pos_iff_ne_zero.mp hd]

lemma le_roundHalfEven_iff {n d e : Nat} (hd : 0 < d) : e ≤ roundHalfEven n d ↔ 2 * e * d + e % 2 ≤ 2 * n + d := by
  have hn := Nat.div_add_mod n d
  have hr := Nat.mod_lt n hd
  unfold roundHalfEven
  dsimp only
  generalize n / d = q at hn
  generalize n % d = r at hn hr
  -- Only the quotient just below the bound can go either way.
  rcases Nat.lt_trichotomy (q + 1) e with h | h | h
  · have hmul : (q + 2) * d ≤ e * d := Nat.mul_le_mul_right d h
    have hlt : 2 * n + d < 2 * e * d := by nlinarith
    have hle : ¬ 2 * e * d + e % 2 ≤ 2 * n + d := by omega
    simp only [hle, iff_false]
    split <;> omega
  · subst h
    have hiff : 2 * (q + 1) * d + (q + 1) % 2 ≤ 2 * n + d ↔ d + (q + 1) % 2 ≤ 2 * r := by
      constructor <;> intro hle <;> nlinarith
    rw [hiff]
    split <;> omega
  · have hmul : e * d ≤ q * d := Nat.mul_le_mul_right d (by omega)
    have hodd := Nat.mod_lt e (by decide : 0 < 2)
    have hle : 2 * e * d + e % 2 ≤ 2 * n + d := by nlinarith
    simp only [hle, iff_true]
    split <;> omega

lemma le_roundHalfEven_iff_of_even {n d e : Nat} (hd : 0 < d) (he : e % 2 = 0) :
    e ≤ roundHalfEven n d ↔ 2 * e * d ≤ 2 * n + d := by
  rw [le_roundHalfEven_iff hd, he, Nat.add_zero]

lemma roundHalfEven_mono {n d n' d' : Nat} (hd : 0 < d) (hd' : 0 < d') (h : n * d' ≤ n' * d) :
    roundHalfEven n d ≤ roundHalfEven n' d' := by
  have hle := (le_roundHalfEven_iff hd).mp (Nat.le_refl (roundHalfEven n d))
  rw [le_roundHalfEven_iff hd']
  generalize roundHalfEven n d = e at hle ⊢
  have hmul := Nat.mul_le_mul_right d' hle
  rcases Nat.mod_two_eq_zero_or_one e with he | he
  · rw [he] at hmul ⊢
    have hcross : (2 * e * d') * d ≤ (2 * n' + d') * d := by nlinarith
    exact Nat.le_of_mul_le_mul_right hcross hd
  · rw [he] at hmul ⊢
    have hcross : (2 * e * d') * d < (2 * n' + d') * d := by nlinarith
    exact Nat.lt_of_mul_lt_mul_right hcross

lemma roundHalfEven_near {n d : Nat} (hd : 0 < d) :
    2 * (roundHalfEven n d * d) ≤ 2 * n + d ∧ 2 * n ≤ 2 * (roundHalfEven n d * d) + d := by
  have hn := Nat.div_add_mod n d
  have hr := Nat.mod_lt n hd
  unfold roundHalfEven
  dsimp only
  generalize n / d = q at hn
  generalize n % d = r at hn hr
  rw [Nat.mul_comm d q] at hn
  split
  · rw [Nat.add_mul]
    omega
  · omega

lemma limit_le_of_le {n j k : Nat} (hjk : j ≤ k) (h : limit ≤ roundHalfEven n (10 ^ k)) :
    limit ≤ roundHalfEven n (10 ^ j) := by
  have he : limit % 2 = 0 := by decide
  rw [le_roundHalfEven_iff_of_even (by positivity) he] at *
  have hpow : 10 ^ j ≤ 10 ^ k := Nat.pow_le_pow_right (by decide) hjk
  have hlim : 1 ≤ limit := by decide
  nlinarith [Nat.mul_le_mul_left (2 * limit - 1) hpow]

end Quotients

section Values

lemma value_eq_div (a : Amount) : a.value = a.coefficient / 10 ^ a.scale := by
  simp [value]

lemma coefficientAt_eq_mul (a : Amount) (s : Nat) : a.coefficientAt s = a.coefficient * 10 ^ (s - a.scale) := by
  simp [coefficientAt]

lemma value_coefficientAt {a : Amount} {s : Nat} (h : a.scale ≤ s) : (a.coefficientAt s : Rat) / 10 ^ s = a.value := by
  have hpow : (10 : Rat) ^ s = 10 ^ a.scale * 10 ^ (s - a.scale) := by
    rw [← pow_add, Nat.add_sub_cancel' h]
  rw [coefficientAt_eq_mul, value_eq_div, hpow]
  push_cast
  field_simp

lemma value_nonneg_iff {a : Amount} : 0 ≤ a.value ↔ 0 ≤ a.coefficient := by
  rw [value_eq_div, le_div_iff₀ (by positivity), zero_mul]
  exact_mod_cast Iff.rfl

lemma value_nonneg {a : Amount} (h : 0 ≤ a.coefficient) : 0 ≤ a.value := value_nonneg_iff.mpr h

lemma value_le_max (a : Amount) : a.value ≤ limit - 1 := by
  have hc : a.coefficient ≤ limit - 1 := by
    have := a.coefficient_lt
    omega
  have hq : (a.coefficient : Rat) ≤ limit - 1 := by exact_mod_cast hc
  have hone : (1 : Rat) ≤ 10 ^ a.scale := one_le_pow₀ (by norm_num)
  have hlim : (0 : Rat) ≤ limit - 1 := by
    rw [sub_nonneg]
    exact_mod_cast (by decide : 1 ≤ limit)
  rw [value_eq_div, div_le_iff₀ (by positivity)]
  nlinarith

lemma value_of_coefficient_eq_zero {a : Amount} (h : a.coefficient = 0) : a.value = 0 := by
  simp [value_eq_div, h]

lemma coefficientAt_nonneg {a : Amount} (h : 0 ≤ a.coefficient) (s : Nat) : 0 ≤ a.coefficientAt s :=
  Int.mul_nonneg h (Int.natCast_nonneg _)

end Values

section Fit

lemma roundedQuotient_natCast (n : Nat) {d : Nat} (hd : 0 < d) : roundedQuotient n d = roundHalfEven n d := by
  rcases Nat.eq_zero_or_pos n with rfl | hn
  · simp [roundedQuotient, roundHalfEven_of_dvd hd (Nat.zero_mul d).symm]
  · simp [roundedQuotient, Int.sign_eq_one_of_pos (Int.natCast_pos.mpr hn)]

lemma findSome?_range_eq_some {α : Type} {f : Nat → Option α} {n : Nat} {a : α}
    (h : (List.range n).findSome? f = some a) : ∃ k < n, f k = some a ∧ ∀ j < k, f j = none := by
  induction n with
  | zero => simp at h
  | succ n ih =>
    rw [List.range_succ, List.findSome?_append] at h
    cases hn : (List.range n).findSome? f with
    | some b =>
      obtain ⟨k, hk, hf, hj⟩ := ih (by simpa [hn] using h)
      exact ⟨k, Nat.lt_succ_of_lt hk, hf, hj⟩
    | none =>
      have hf : f n = some a := by simpa [hn] using h
      refine ⟨n, Nat.lt_succ_self n, hf, ?_⟩
      intro j hj
      exact List.findSome?_eq_none_iff.mp hn j (List.mem_range.mpr hj)

lemma natAbs_roundedQuotient (c : Int) {d : Nat} (hd : 0 < d) :
    (roundedQuotient c d).natAbs = roundHalfEven c.natAbs d := by
  rcases eq_or_ne c 0 with rfl | hc
  · simp [roundedQuotient, roundHalfEven_of_dvd hd (Nat.zero_mul d).symm]
  · rw [roundedQuotient, Int.natAbs_mul, Int.natAbs_sign_of_ne_zero hc, Nat.one_mul, Int.natAbs_natCast]

lemma of?_eq_none {c : Int} {k s : Nat} (hs : s ≤ maxScale) :
    of? (roundedQuotient c (10 ^ k)) (s - k) = none ↔ limit ≤ roundHalfEven c.natAbs (10 ^ k) := by
  have hsk : s - k ≤ maxScale := by omega
  rw [← natAbs_roundedQuotient c (by positivity), of?]
  simp [hsk]

lemma fit?_eq_none_iff {c : Int} {s : Nat} (hs : s ≤ maxScale) :
    fit? c s = none ↔ limit ≤ roundHalfEven c.natAbs (10 ^ s) := by
  rw [fit?, List.findSome?_eq_none_iff]
  constructor
  · intro h
    exact (of?_eq_none hs).mp (h s (List.mem_range.mpr (Nat.lt_succ_self s)))
  · intro h k hk
    exact (of?_eq_none hs).mpr (limit_le_of_le (Nat.lt_succ_iff.mp (List.mem_range.mp hk)) h)

lemma fit?_eq_some {c : Int} {s : Nat} (hs : s ≤ maxScale) {a : Amount} (h : fit? c s = some a) :
    ∃ k ≤ s, (∀ j < k, limit ≤ roundHalfEven c.natAbs (10 ^ j)) ∧ a.coefficient = roundedQuotient c (10 ^ k) ∧
      a.scale = s - k := by
  obtain ⟨k, hk, ha, hj⟩ := findSome?_range_eq_some h
  obtain ⟨hc, hscale⟩ := of?_eq_some_iff.mp ha
  exact ⟨k, Nat.lt_succ_iff.mp hk, fun j hjk => (of?_eq_none hs).mp (hj j hjk), hc, hscale⟩

lemma dvd_of_holds {n s k m t : Nat} (hm : m < limit) (heq : m * 10 ^ s = n * 10 ^ t)
    (hmin : ∀ j < k, limit ≤ roundHalfEven n (10 ^ j)) : 10 ^ k ∣ n := by
  rcases Nat.eq_zero_or_pos k with rfl | hk
  · simp
  · have hn : limit ≤ n := by simpa [roundHalfEven_one] using hmin 0 hk
    -- The larger coefficient has the larger scale, and the difference is the zeros that can go.
    have hts : t < s := by
      by_contra hst
      have hpow : 10 ^ s ≤ 10 ^ t := Nat.pow_le_pow_right (by decide) (Nat.le_of_not_lt hst)
      have hlt : m * 10 ^ s < n * 10 ^ t :=
        Nat.mul_lt_mul_of_lt_of_le (Nat.lt_of_lt_of_le hm hn) hpow (by positivity)
      exact absurd heq hlt.ne
    have hmul : n = m * 10 ^ (s - t) := by
      have hsplit : 10 ^ s = 10 ^ (s - t) * 10 ^ t := by rw [← pow_add, Nat.sub_add_cancel hts.le]
      rw [hsplit, ← Nat.mul_assoc] at heq
      exact (Nat.eq_of_mul_eq_mul_right (by positivity) heq).symm
    have hkst : k ≤ s - t := by
      by_contra hlt
      have hlim := hmin (s - t) (Nat.lt_of_not_le hlt)
      rw [roundHalfEven_of_dvd (by positivity) hmul] at hlim
      exact absurd hm hlim.not_gt
    rw [hmul]
    exact Dvd.dvd.mul_left (Nat.pow_dvd_pow 10 hkst) m

lemma abs_value_sub_le {n s k : Nat} {c : Amount} (hk : k ≤ s) (hc : c.coefficient = roundHalfEven n (10 ^ k))
    (hs : c.scale = s - k) : |c.value - n / 10 ^ s| ≤ 1 / 2 := by
  obtain ⟨hle, hge⟩ := roundHalfEven_near (n := n) (d := 10 ^ k) (by positivity)
  have hle' : 2 * ((roundHalfEven n (10 ^ k) : Rat) * 10 ^ k) ≤ 2 * n + 10 ^ k := by exact_mod_cast hle
  have hge' : (2 : Rat) * n ≤ 2 * (roundHalfEven n (10 ^ k) * 10 ^ k) + 10 ^ k := by exact_mod_cast hge
  have hpow : (10 : Rat) ^ s = 10 ^ (s - k) * 10 ^ k := by rw [← pow_add, Nat.sub_add_cancel hk]
  have hle_s : (10 : Rat) ^ k ≤ 10 ^ s := pow_le_pow_right₀ (by norm_num) hk
  have hval : c.value - n / 10 ^ s = (roundHalfEven n (10 ^ k) * 10 ^ k - n) / 10 ^ s := by
    rw [value_eq_div, hc, hs, hpow]
    push_cast
    field_simp
  rw [hval, abs_div, abs_of_pos (a := (10 : Rat) ^ s) (by positivity), div_le_iff₀ (by positivity), abs_le]
  constructor <;> linarith

lemma value_of_dvd {n s k : Nat} {c : Amount} (hk : k ≤ s) (hd : 10 ^ k ∣ n)
    (hc : c.coefficient = roundHalfEven n (10 ^ k)) (hs : c.scale = s - k) : c.value = n / 10 ^ s := by
  obtain ⟨q, rfl⟩ := hd
  rw [roundHalfEven_of_dvd (by positivity) (Nat.mul_comm _ _)] at hc
  have hpow : (10 : Rat) ^ s = 10 ^ k * 10 ^ (s - k) := by rw [← pow_add, Nat.add_sub_cancel' hk]
  rw [value_eq_div, hc, hs, hpow]
  push_cast
  field_simp

end Fit

section Sums

variable {a b : Amount}

def Holds (q : Rat) : Prop := ∃ a : Amount, a.value = q

lemma exists_aligned (ha : 0 ≤ a.coefficient) (hb : 0 ≤ b.coefficient) :
    ∃ n : Nat, a.coefficientAt (Nat.max a.scale b.scale) + b.coefficientAt (Nat.max a.scale b.scale) = n ∧
      (n : Rat) / 10 ^ Nat.max a.scale b.scale = a.value + b.value := by
  have hn := add_nonneg (coefficientAt_nonneg ha (Nat.max a.scale b.scale))
    (coefficientAt_nonneg hb (Nat.max a.scale b.scale))
  obtain ⟨n, hn⟩ := Int.eq_ofNat_of_zero_le hn
  refine ⟨n, hn, ?_⟩
  have hq : (n : Rat) = a.coefficientAt (Nat.max a.scale b.scale) + b.coefficientAt (Nat.max a.scale b.scale) := by
    exact_mod_cast hn.symm
  rw [hq, add_div, value_coefficientAt (Nat.le_max_left _ _), value_coefficientAt (Nat.le_max_right _ _)]

lemma max_scale_le (a b : Amount) : Nat.max a.scale b.scale ≤ maxScale := Nat.max_le.mpr ⟨a.scale_le, b.scale_le⟩

theorem add?_eq_none_iff (ha : 0 ≤ a.coefficient) (hb : 0 ≤ b.coefficient) :
    a.add? b = none ↔ (limit : Rat) - 1 / 2 ≤ a.value + b.value := by
  have hsmall : ∀ c : Amount, ¬ (limit : Rat) - 1 / 2 ≤ c.value := by
    intro c hc
    have := c.value_le_max
    linarith
  unfold add?
  by_cases ha0 : a.coefficient = 0
  · rw [if_pos ha0, value_of_coefficient_eq_zero ha0, zero_add]
    exact iff_of_false (by simp) (hsmall b)
  · by_cases hb0 : b.coefficient = 0
    · rw [if_neg ha0, if_pos hb0, value_of_coefficient_eq_zero hb0, add_zero]
      exact iff_of_false (by simp) (hsmall a)
    · obtain ⟨n, hn, hv⟩ := exists_aligned ha hb
      simp only [ha0, hb0, if_false, hn]
      rw [fit?_eq_none_iff (max_scale_le a b), Int.natAbs_natCast,
        le_roundHalfEven_iff_of_even (by positivity) (by decide), ← hv, le_div_iff₀ (by positivity)]
      rw [← Nat.cast_le (α := Rat)]
      push_cast
      constructor <;> intro h <;> linarith

lemma add?_cases (ha : 0 ≤ a.coefficient) (hb : 0 ≤ b.coefficient) {c : Amount} (h : a.add? b = some c) :
    (c.value = a.value + b.value ∧ 0 ≤ c.coefficient) ∨
    ∃ n k : Nat, k ≤ Nat.max a.scale b.scale ∧ (n : Rat) / 10 ^ Nat.max a.scale b.scale = a.value + b.value ∧
      (∀ j < k, limit ≤ roundHalfEven n (10 ^ j)) ∧ c.coefficient = roundHalfEven n (10 ^ k) ∧
      c.scale = Nat.max a.scale b.scale - k := by
  unfold add? at h
  by_cases ha0 : a.coefficient = 0
  · rw [if_pos ha0] at h
    cases h
    exact .inl ⟨by rw [value_of_coefficient_eq_zero ha0, zero_add], hb⟩
  · by_cases hb0 : b.coefficient = 0
    · rw [if_neg ha0, if_pos hb0] at h
      cases h
      exact .inl ⟨by rw [value_of_coefficient_eq_zero hb0, add_zero], ha⟩
    · obtain ⟨n, hn, hv⟩ := exists_aligned ha hb
      simp only [ha0, hb0, if_false, hn] at h
      obtain ⟨k, hk, hmin, hc, hs⟩ := fit?_eq_some (max_scale_le a b) h
      rw [roundedQuotient_natCast n (by positivity)] at hc
      exact .inr ⟨n, k, hk, hv, hmin, hc, hs⟩

lemma coefficient_add?_nonneg (ha : 0 ≤ a.coefficient) (hb : 0 ≤ b.coefficient) {c : Amount}
    (h : a.add? b = some c) : 0 ≤ c.coefficient := by
  rcases add?_cases ha hb h with ⟨-, hc⟩ | ⟨n, k, -, -, -, hc, -⟩
  · exact hc
  · rw [hc]
    exact Int.natCast_nonneg _

lemma abs_value_add?_sub_le (ha : 0 ≤ a.coefficient) (hb : 0 ≤ b.coefficient) {c : Amount} (h : a.add? b = some c) :
    |c.value - (a.value + b.value)| ≤ 1 / 2 := by
  rcases add?_cases ha hb h with ⟨hv, -⟩ | ⟨n, k, hk, hv, -, hc, hs⟩
  · rw [hv, sub_self, abs_zero]
    norm_num
  · rw [← hv]
    exact abs_value_sub_le hk hc hs

theorem value_add?_iff (ha : 0 ≤ a.coefficient) (hb : 0 ≤ b.coefficient) {c : Amount} (h : a.add? b = some c) :
    c.value = a.value + b.value ↔ Holds (a.value + b.value) := by
  refine ⟨fun hv => ⟨c, hv⟩, ?_⟩
  rintro ⟨r, hr⟩
  rcases add?_cases ha hb h with ⟨hv, -⟩ | ⟨n, k, hk, hv, hmin, hc, hs⟩
  · exact hv
  · have hnonneg : 0 ≤ r.coefficient := by
      rw [← value_nonneg_iff, hr]
      exact add_nonneg (value_nonneg ha) (value_nonneg hb)
    obtain ⟨m, hm⟩ := Int.eq_ofNat_of_zero_le hnonneg
    have hlim : m < limit := by
      have := r.coefficient_lt
      omega
    rw [← hv] at hr ⊢
    have heq : m * 10 ^ Nat.max a.scale b.scale = n * 10 ^ r.scale := by
      rw [value_eq_div, hm, div_eq_div_iff (by positivity) (by positivity)] at hr
      exact_mod_cast hr
    exact value_of_dvd hk (dvd_of_holds hlim heq hmin) hc hs

end Sums

end Passbook.Amount
