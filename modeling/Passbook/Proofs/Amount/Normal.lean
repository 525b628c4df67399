import Passbook.Proofs.Amount.Rounding

/-! Amounts of one value. They have one coefficient over a common scale, so they differ in zeros at the end only, and
without these they are the same. -/

namespace Passbook.Amount

lemma strip_mul_pow (c : Int) (s k : Nat) : strip (c * 10 ^ k) (s + k) = strip c s := by
  induction k with
  | zero => simp
  | succ k ih =>
    have hmul : c * 10 ^ (k + 1) = 10 * (c * 10 ^ k) := by ring
    rw [← Nat.add_assoc, strip, hmul, if_pos (Int.mul_emod_right 10 _), Int.mul_ediv_cancel_left _ (by decide), ih]

variable {a b : Amount}

lemma value_eq_iff_coefficientAt {s : Nat} (ha : a.scale ≤ s) (hb : b.scale ≤ s) :
    a.value = b.value ↔ a.coefficientAt s = b.coefficientAt s := by
  rw [← value_coefficientAt ha, ← value_coefficientAt hb, div_left_inj' (by positivity)]
  exact Int.cast_inj

lemma isPositive_iff : a.isPositive ↔ 0 < a.value := by
  rw [value_eq_div, lt_div_iff₀ (by positivity), zero_mul, isPositive, decide_eq_true_eq]
  exact Int.cast_pos.symm

lemma sameValue_iff : a.sameValue b ↔ a.value = b.value := by
  rw [value_eq_iff_coefficientAt (Nat.le_max_left _ _) (Nat.le_max_right _ _)]
  simp [sameValue, compare]

lemma normalize_eq_of_scale_le (hs : a.scale ≤ b.scale) (h : a.value = b.value) : a.normalize = b.normalize := by
  rw [value_eq_iff_coefficientAt hs le_rfl, coefficientAt_scale, coefficientAt_eq_mul] at h
  have hstrip : strip b.coefficient b.scale = strip a.coefficient a.scale := by
    rw [← h]
    conv_lhs => rw [← Nat.add_sub_cancel' hs]
    rw [Nat.add_sub_cancel_left]
    exact strip_mul_pow _ _ _
  exact ext (congrArg Prod.fst hstrip.symm) (congrArg Prod.snd hstrip.symm)

theorem normalize_eq_of_value_eq (h : a.value = b.value) : a.normalize = b.normalize := by
  rcases Nat.le_total a.scale b.scale with hs | hs
  · exact normalize_eq_of_scale_le hs h
  · exact (normalize_eq_of_scale_le hs h.symm).symm

end Passbook.Amount
