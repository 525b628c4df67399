import Passbook.Proofs.Amount.Total

/-! Sums of amounts grow with what is added. An addition leaves what is nearest to the exact sum among the numbers of as
many places as fit, and how many fit depends on the exact sum alone, whatever the scales of its parts. So a larger exact
sum leaves no less, and an amount that is put anywhere into a list does not lower its sum. -/

namespace Passbook.Amount

variable {a a' b c c' x : Amount} {q q' : Rat}

lemma abs_value (a : Amount) : |a.value| = a.coefficient.natAbs / 10 ^ a.scale := by
  rw [value_eq_div, abs_div, abs_of_pos (a := (10 : Rat) ^ a.scale) (by positivity), Nat.cast_natAbs, Int.cast_abs]

lemma abs_value_mul {s : Nat} (h : a.scale ≤ s) :
    |a.value| * 10 ^ s = (a.coefficient.natAbs * 10 ^ (s - a.scale) : Nat) := by
  have hpow : (10 : Rat) ^ s = 10 ^ a.scale * 10 ^ (s - a.scale) := by rw [← pow_add, Nat.add_sub_cancel' h]
  rw [abs_value, hpow]
  push_cast
  field_simp

/-- The amount has the coefficient nearest to `q` at its scale, and has all of `q` unless one more place would have been
too much. -/
structure Rounds (q : Rat) (c : Amount) : Prop where
  nearest : ∃ (m : Int) (d : Nat), 0 < d ∧ q * 10 ^ c.scale = m / d ∧ c.coefficient = roundedQuotient m d
  full : c.value = q ∨ (limit : Rat) - 1 / 2 ≤ |q| * 10 ^ (c.scale + 1)

lemma rounds_self (c : Amount) : Rounds c.value c where
  nearest := ⟨c.coefficient, 1, Nat.one_pos, by rw [value_eq_div]; field_simp; simp, (roundedQuotient_one _).symm⟩
  full := .inl rfl

lemma rounds_fit? {m : Int} {s : Nat} (hs : s ≤ maxScale) (h : fit? m s = some c) : Rounds (m / 10 ^ s) c := by
  obtain ⟨k, hk, hmin, hc, hscale⟩ := fit?_eq_some hs h
  have hpow : (10 : Rat) ^ s = 10 ^ k * 10 ^ (s - k) := by rw [← pow_add, Nat.add_sub_cancel' hk]
  refine ⟨⟨m, 10 ^ k, by positivity, ?_, hc⟩, ?_⟩
  · rw [hscale, hpow]
    push_cast
    field_simp
  · cases k with
    | zero =>
      left
      rw [Nat.pow_zero, roundedQuotient_one] at hc
      rw [value_eq_div, hc, hscale, Nat.sub_zero]
    | succ k =>
      right
      have hlimit := hmin k (Nat.lt_succ_self k)
      rw [le_roundHalfEven_iff_of_even (by positivity) (by decide)] at hlimit
      have hlimit : 2 * (limit : Rat) * 10 ^ k ≤ 2 * |(m : Rat)| + 10 ^ k := by
        rw [← Int.cast_abs, ← Nat.cast_natAbs]
        exact_mod_cast hlimit
      have hplace : (10 : Rat) ^ s = 10 ^ k * 10 ^ (c.scale + 1) := by
        rw [hscale, ← pow_add]
        congr 1
        omega
      have hq : |(m : Rat) / 10 ^ s| * 10 ^ (c.scale + 1) = |(m : Rat)| / 10 ^ k := by
        rw [abs_div, abs_of_pos (a := (10 : Rat) ^ s) (by positivity), hplace]
        field_simp
      rw [hq, le_div_iff₀ (by positivity)]
      linarith

theorem rounds_add? (h : a.add? b = some c) : Rounds (a.value + b.value) c := by
  unfold add? at h
  split at h
  · next ha =>
    cases h
    rw [value_of_coefficient_eq_zero ha, zero_add]
    exact rounds_self b
  · split at h
    · next hb =>
      cases h
      rw [value_of_coefficient_eq_zero hb, add_zero]
      exact rounds_self a
    · have hsum := rounds_fit? (max_scale_le a b) h
      rwa [Int.cast_add, add_div, value_coefficientAt (Nat.le_max_left _ _),
        value_coefficientAt (Nat.le_max_right _ _)] at hsum

namespace Rounds

lemma abs_nearest (h : Rounds q c) :
    ∃ n d : Nat, 0 < d ∧ |q| * 10 ^ c.scale = n / d ∧ c.coefficient.natAbs = roundHalfEven n d := by
  obtain ⟨m, d, hd, hq, hc⟩ := h.nearest
  refine ⟨m.natAbs, d, hd, ?_, by rw [hc, natAbs_roundedQuotient m hd]⟩
  have habs := congrArg abs hq
  rwa [abs_mul, abs_of_pos (a := (10 : Rat) ^ c.scale) (by positivity), abs_div, Nat.abs_cast, ← Int.cast_abs,
    ← Nat.cast_natAbs] at habs

lemma le_coefficient (h : Rounds q c) {e : Nat} (he : (e : Rat) ≤ |q| * 10 ^ c.scale) : e ≤ c.coefficient.natAbs := by
  obtain ⟨n, d, hd, hq, hc⟩ := h.abs_nearest
  rw [hq, le_div_iff₀ (by positivity)] at he
  have hmul : e * d ≤ n := by exact_mod_cast he
  rw [hc, ← roundHalfEven_one e]
  exact roundHalfEven_mono Nat.one_pos hd (by omega)

lemma coefficient_le (h : Rounds q c) {e : Nat} (he : |q| * 10 ^ c.scale ≤ e) : c.coefficient.natAbs ≤ e := by
  obtain ⟨n, d, hd, hq, hc⟩ := h.abs_nearest
  rw [hq, div_le_iff₀ (by positivity)] at he
  have hmul : n ≤ e * d := by exact_mod_cast he
  rw [hc, ← roundHalfEven_one e]
  exact roundHalfEven_mono hd Nat.one_pos (by omega)

lemma le_coefficient_of_even (h : Rounds q c) {e : Nat} (he : e % 2 = 0) (hq : e - 1 / 2 ≤ |q| * 10 ^ c.scale) :
    e ≤ c.coefficient.natAbs := by
  obtain ⟨n, d, hd, hn, hc⟩ := h.abs_nearest
  rw [hn, le_div_iff₀ (by positivity)] at hq
  rw [hc, le_roundHalfEven_iff_of_even hd he, ← Nat.cast_le (α := Rat)]
  push_cast
  linarith

lemma lt_limit (h : Rounds q c) : |q| * 10 ^ c.scale < limit - 1 / 2 := by
  by_contra hge
  exact c.coefficient_lt.not_ge (h.le_coefficient_of_even (by decide) (not_lt.mp hge))

lemma limit_le (h : Rounds q c) (hq : (limit : Rat) - 1 / 2 ≤ |q| * 10 ^ (c.scale + 1)) :
    limit ≤ 10 * c.coefficient.natAbs := by
  have htenth : 10 * (limit / 10 + 1) ≤ limit + 4 ∧ limit ≤ 10 * (limit / 10 + 1) := by decide
  have hcast : (10 : Rat) * (limit / 10 + 1 : Nat) ≤ limit + 4 := by exact_mod_cast htenth.1
  have hle : limit / 10 + 1 ≤ c.coefficient.natAbs := by
    apply h.le_coefficient_of_even (by decide)
    rw [pow_succ, ← mul_assoc] at hq
    linarith
  omega

theorem abs_value_le (h : Rounds q c) (h' : Rounds q' c') (hq : |q| ≤ |q'|) : |c.value| ≤ |c'.value| := by
  rcases Nat.lt_trichotomy c.scale c'.scale with hs | hs | hs
  · have hpow : (10 : Rat) ^ (c.scale + 1) ≤ 10 ^ c'.scale := pow_le_pow_right₀ (by norm_num) hs
    rcases h.full with hexact | hfull
    · rw [← hexact] at hq
      have hmul : |c.value| * 10 ^ c'.scale ≤ |q'| * 10 ^ c'.scale := by gcongr
      rw [abs_value_mul hs.le] at hmul
      rw [abs_value c', le_div_iff₀ (by positivity), abs_value_mul hs.le]
      exact_mod_cast h'.le_coefficient hmul
    · have hlt := h'.lt_limit
      have hmul : |q| * 10 ^ (c.scale + 1) ≤ |q'| * 10 ^ c'.scale := by gcongr
      linarith
  · obtain ⟨n, d, hd, hn, hc⟩ := h.abs_nearest
    obtain ⟨n', d', hd', hn', hc'⟩ := h'.abs_nearest
    have hle : (n : Rat) / d ≤ n' / d' := by
      rw [← hn, ← hn', hs]
      gcongr
    rw [div_le_div_iff₀ (by positivity) (by positivity)] at hle
    rw [abs_value, abs_value, hc, hc', hs]
    gcongr
    exact roundHalfEven_mono hd hd' (by exact_mod_cast hle)
  · have hpow : (10 : Rat) ^ (c'.scale + 1) ≤ 10 ^ c.scale := pow_le_pow_right₀ (by norm_num) hs
    rcases h'.full with hexact | hfull
    · rw [← hexact] at hq
      have hmul : |q| * 10 ^ c.scale ≤ |c'.value| * 10 ^ c.scale := by gcongr
      rw [abs_value_mul hs.le] at hmul
      rw [abs_value c, div_le_iff₀ (by positivity), abs_value_mul hs.le]
      exact_mod_cast h.coefficient_le hmul
    · have hlimit : (limit : Rat) ≤ 10 * c'.coefficient.natAbs := by exact_mod_cast h'.limit_le hfull
      have hlt : (c.coefficient.natAbs : Rat) ≤ limit := by exact_mod_cast c.coefficient_lt.le
      rw [abs_value, abs_value, div_le_div_iff₀ (by positivity) (by positivity)]
      calc (c.coefficient.natAbs : Rat) * 10 ^ c'.scale ≤ 10 * c'.coefficient.natAbs * 10 ^ c'.scale := by
            gcongr
            exact hlt.trans hlimit
        _ = c'.coefficient.natAbs * 10 ^ (c'.scale + 1) := by ring
        _ ≤ c'.coefficient.natAbs * 10 ^ c.scale := by gcongr

lemma value_nonneg (h : Rounds q c) (hq : 0 ≤ q) : 0 ≤ c.value := by
  obtain ⟨m, d, hd, hm, hc⟩ := h.nearest
  have hpos : 0 ≤ (m : Rat) / d := hm ▸ by positivity
  rw [le_div_iff₀ (by positivity), zero_mul, Int.cast_nonneg_iff] at hpos
  rw [value_nonneg_iff, hc]
  exact Int.mul_nonneg (Int.sign_nonneg_iff.mpr hpos) (Int.natCast_nonneg _)

lemma value_nonpos (h : Rounds q c) (hq : q ≤ 0) : c.value ≤ 0 := by
  obtain ⟨m, d, hd, hm, hc⟩ := h.nearest
  have hneg : (m : Rat) / d ≤ 0 := hm ▸ mul_nonpos_of_nonpos_of_nonneg hq (by positivity)
  rw [div_le_iff₀ (by positivity), zero_mul, Int.cast_nonpos] at hneg
  have hcoefficient : c.coefficient ≤ 0 := by
    rw [hc]
    exact Int.mul_nonpos_of_nonpos_of_nonneg (Int.sign_nonpos_iff.mpr hneg) (Int.natCast_nonneg _)
  rw [value_eq_div, div_le_iff₀ (by positivity), zero_mul, Int.cast_nonpos]
  exact hcoefficient

theorem value_le (h : Rounds q c) (h' : Rounds q' c') (hq : q ≤ q') : c.value ≤ c'.value := by
  rcases le_total 0 q with hpos | hneg
  · have habs := h.abs_value_le h' (abs_le_abs_of_nonneg hpos hq)
    rwa [abs_of_nonneg (h.value_nonneg hpos), abs_of_nonneg (h'.value_nonneg (hpos.trans hq))] at habs
  · rcases le_total 0 q' with hpos' | hneg'
    · exact (h.value_nonpos hneg).trans (h'.value_nonneg hpos')
    · have habs := h'.abs_value_le h (abs_le_abs_of_nonpos hneg' hq)
      rw [abs_of_nonpos (h.value_nonpos hneg), abs_of_nonpos (h'.value_nonpos hneg')] at habs
      exact neg_le_neg_iff.mp habs

end Rounds

lemma add?_mono (h : a.value ≤ a'.value) (hb : a.add? b = some c) (hb' : a'.add? b = some c') :
    c.value ≤ c'.value :=
  (rounds_add? hb).value_le (rounds_add? hb') (add_le_add_left h _)

lemma le_add? (hx : 0 ≤ x.value) (h : a.add? x = some c) : a.value ≤ c.value :=
  (rounds_self a).value_le (rounds_add? h) (le_add_of_nonneg_right hx)

theorem foldlM_mono {bs : List Amount} (h : a.value ≤ a'.value) (hc : bs.foldlM add? a = some c)
    (hc' : bs.foldlM add? a' = some c') : c.value ≤ c'.value := by
  induction bs generalizing a a' with
  | nil =>
    cases hc
    cases hc'
    exact h
  | cons b bs ih =>
    obtain ⟨d, hd, hc⟩ := exists_of_foldlM_cons hc
    obtain ⟨d', hd', hc'⟩ := exists_of_foldlM_cons hc'
    exact ih (add?_mono h hd hd') hc hc'

theorem sum?_insert_mono {before after : List Amount} (hx : 0 ≤ x.value) (hc : sum? (before ++ after) = some c)
    (hc' : sum? (before ++ x :: after) = some c') : c.value ≤ c'.value := by
  rw [sum?_append] at hc hc'
  obtain ⟨a, ha, hc⟩ := Option.bind_eq_some_iff.mp hc
  obtain ⟨a', ha', hc'⟩ := Option.bind_eq_some_iff.mp hc'
  obtain rfl : a = a' := Option.some.inj (ha.symm.trans ha')
  obtain ⟨d, hd, hc'⟩ := exists_of_foldlM_cons hc'
  exact foldlM_mono (le_add? hx hd) hc hc'

end Passbook.Amount
