import Mathlib.Tactic.IntervalCases
import Passbook.Proofs.Amount.Normal
import Passbook.Proofs.Amount.Reading

/-! Printed amounts. The text of an amount is read as that amount, with its scale, so no two amounts have one text. Two
amounts have one value just when they have one text after their zeros are gone. -/

namespace Passbook

namespace Text

variable {c : Char} {cs ds : List Char}

lemma bounds_of_isDigit (h : c.isDigit) : 48 ≤ c.toNat ∧ c.toNat ≤ 57 := by
  simp only [Char.isDigit, Bool.and_eq_true, decide_eq_true_eq, UInt32.le_iff_toNat_le] at h
  exact h

lemma digit?_of_isDigit (h : c.isDigit) : ∃ d, digit? c = some d := ⟨_, if_pos h⟩

lemma length_digits (h : ∀ c ∈ cs, c.isDigit) : (digits cs).length = cs.length := by
  induction cs with
  | nil => rfl
  | cons c cs ih =>
    obtain ⟨hc, hcs⟩ := List.forall_mem_cons.mp h
    obtain ⟨d, hd⟩ := digit?_of_isDigit hc
    rw [digits_cons_of_digit hd, List.length_cons, ih hcs, List.length_cons]

lemma number_append (cs ds : List Char) : number (cs ++ ds) = number cs * 10 ^ (digits ds).length + number ds := by
  simp only [number, digits, List.filterMap_append, List.reverse_append, Nat.ofDigits_append, List.length_reverse]
  ring

lemma isDigit_decimal (n : Nat) : ∀ c ∈ decimal n, c.isDigit :=
  fun _ hc => Nat.isDigit_of_mem_toDigits (by decide) (by decide) hc

lemma decimal_ne_nil (n : Nat) : decimal n ≠ [] := by
  have hpos := Nat.length_toDigits_pos (b := 10) (n := n)
  exact List.ne_nil_of_length_pos hpos

lemma decimal_of_lt {n : Nat} (h : n < 10) : decimal n = [n.digitChar] := Nat.toDigits_of_lt_base h

lemma decimal_of_le {n : Nat} (h : 10 ≤ n) : decimal n = decimal (n / 10) ++ [(n % 10).digitChar] :=
  Nat.toDigits_of_base_le (by decide) h

lemma digit?_digitChar {n : Nat} (h : n < 10) : digit? n.digitChar = some n := by
  interval_cases n <;> rfl

lemma number_decimal (n : Nat) : number (decimal n) = n := by
  induction n using Nat.strong_induction_on with
  | _ n ih =>
    by_cases h : n < 10
    · simp [decimal_of_lt h, number, digits, digit?_digitChar h]
    · have hlast : digits [(n % 10).digitChar] = [n % 10] := by
        rw [digits_cons_of_digit (digit?_digitChar (Nat.mod_lt n (by decide)))]
        rfl
      rw [decimal_of_le (Nat.le_of_not_lt h), number_append, ih (n / 10) (by omega), number, hlast]
      simp only [List.reverse_singleton, Nat.ofDigits_singleton, List.length_singleton]
      omega

lemma head?_decimal {n : Nat} (h : 0 < n) : (decimal n).head? ≠ some '0' := by
  induction n using Nat.strong_induction_on with
  | _ n ih =>
    by_cases hn : n < 10
    · rw [decimal_of_lt hn]
      interval_cases n <;> decide
    · rw [decimal_of_le (Nat.le_of_not_lt hn), List.head?_append_of_ne_nil _ (decimal_ne_nil _)]
      exact ih (n / 10) (by omega) (by omega)

lemma number_replicate_zero (k : Nat) : number (List.replicate k '0') = 0 := by
  induction k with
  | zero => rfl
  | succ k ih => rw [List.replicate_succ, number_cons_of_digit (d := 0) rfl, ih, Nat.zero_mul]

lemma number_zeroPadded (width : Nat) (cs : List Char) : number (zeroPadded width cs) = number cs := by
  rw [zeroPadded, number_append, number_replicate_zero, Nat.zero_mul, Nat.zero_add]

lemma isDigit_zeroPadded (width : Nat) (h : ∀ c ∈ cs, c.isDigit) : ∀ c ∈ zeroPadded width cs, c.isDigit := by
  intro c hc
  rcases List.mem_append.mp hc with hc | hc
  · rw [List.eq_of_mem_replicate hc]
    decide
  · exact h c hc

lemma places_of_digits (h : ∀ c ∈ cs, c.isDigit) : places cs = 0 := by
  have hpoint : ∀ c ∈ cs, (c != '.') = true := by
    intro c hc
    have hne : c ≠ '.' := by
      rintro rfl
      exact absurd (h _ hc) (by decide)
    simpa using hne
  simp [places, List.dropWhile_eq_nil_iff.mpr hpoint, digits]

end Text

namespace Amount

open Text

namespace Numeral

variable {n : Numeral} {c : Char} {cs : List Char}

lemma mantissa_le_mantissaWith (n : Numeral) (cs : List Char) : n.mantissa ≤ n.mantissaWith cs := by
  have hpow : 1 ≤ 10 ^ (digits cs).length := Nat.one_le_pow _ _ (by decide)
  have hmul := Nat.le_mul_of_pos_right n.mantissa hpow
  rw [mantissaWith]
  omega

lemma scale_le_scaleWith (n : Numeral) (cs : List Char) : n.scale ≤ n.scaleWith cs := Nat.le_add_right _ _

lemma exactStep_of_digit {d : Nat} (hd : digit? c = some d) (hwhole : n.pointed = false → n.scale = 0)
    (hlimit : n.mantissaWith (c :: cs) < limit) (hscale : n.scaleWith (c :: cs) ≤ maxScale) :
    n.exactStep c = some (n.pushDigit d) := by
  have hroom : n.isFull = false := by
    cases hp : n.pointed with
    | false => simp [isFull, hwhole hp, maxScale]
    | true =>
      simp only [scaleWith, hp, if_true, digits_cons_of_digit hd, List.length_cons] at hscale
      simp only [isFull, beq_eq_false_iff_ne]
      omega
  have hholds : (n.pushDigit d).holds := by
    rw [← mantissaWith_pushDigit hd] at hlimit
    rw [← scaleWith_pushDigit hd] at hscale
    simpa [holds] using And.intro (Nat.lt_of_le_of_lt (mantissa_le_mantissaWith _ cs) hlimit)
      (Nat.le_trans (scale_le_scaleWith _ cs) hscale)
  simp [exactStep, hroom, hd, hholds]

lemma foldlM_exactStep_digits (hdigits : ∀ c ∈ cs, c.isDigit) (hwhole : n.pointed = false → n.scale = 0)
    (hlimit : n.mantissaWith cs < limit) (hscale : n.scaleWith cs ≤ maxScale) :
    cs.foldlM exactStep n =
      some ⟨n.mantissaWith cs, n.scaleWith cs, n.pointed, n.started || !cs.isEmpty⟩ := by
  induction cs generalizing n with
  | nil => simp [mantissaWith_nil, scaleWith_nil]
  | cons c cs ih =>
    obtain ⟨hc, hcs⟩ := List.forall_mem_cons.mp hdigits
    obtain ⟨d, hd⟩ := digit?_of_isDigit hc
    rw [List.foldlM_cons, exactStep_of_digit hd hwhole hlimit hscale]
    have hpush : (n.pushDigit d).pointed = false → (n.pushDigit d).scale = 0 := by
      intro hp
      have hp : n.pointed = false := hp
      simp [pushDigit, hp, hwhole hp]
    rw [← mantissaWith_pushDigit hd, ← scaleWith_pushDigit hd] at *
    refine (ih hcs hpush hlimit hscale).trans ?_
    simp [pushDigit]

end Numeral

section Digits

variable (m s : Nat)

def wholeDigits : List Char :=
  (zeroPadded (s + 1) (decimal m)).take ((zeroPadded (s + 1) (decimal m)).length - s)

def fractionDigits : List Char :=
  (zeroPadded (s + 1) (decimal m)).drop ((zeroPadded (s + 1) (decimal m)).length - s)

lemma renderDigits_eq : renderDigits m s = wholeDigits m s ++ if s = 0 then [] else '.' :: fractionDigits m s := by
  simp only [renderDigits, wholeDigits, fractionDigits]
  split
  · exact (List.append_nil _).symm
  · rfl

lemma wholeDigits_append : wholeDigits m s ++ fractionDigits m s = zeroPadded (s + 1) (decimal m) :=
  List.take_append_drop _ _

lemma number_digits : number (wholeDigits m s ++ fractionDigits m s) = m := by
  rw [wholeDigits_append, number_zeroPadded, number_decimal]

lemma isDigit_digits : ∀ c ∈ wholeDigits m s ++ fractionDigits m s, c.isDigit := by
  rw [wholeDigits_append]
  exact isDigit_zeroPadded _ (isDigit_decimal m)

lemma isDigit_wholeDigits : ∀ c ∈ wholeDigits m s, c.isDigit :=
  fun c hc => isDigit_digits m s c (List.mem_append_left _ hc)

lemma isDigit_fractionDigits : ∀ c ∈ fractionDigits m s, c.isDigit :=
  fun c hc => isDigit_digits m s c (List.mem_append_right _ hc)

lemma length_fractionDigits : (fractionDigits m s).length = s := by
  have hlength := length_zeroPadded (s + 1) (decimal m)
  rw [fractionDigits, List.length_drop]
  omega

lemma wholeDigits_ne_nil : wholeDigits m s ≠ [] := by
  have hlength := length_zeroPadded (s + 1) (decimal m)
  apply List.ne_nil_of_length_pos
  rw [wholeDigits, List.length_take]
  omega

lemma wholeDigits_head : wholeDigits m s = ['0'] ∨ (wholeDigits m s).head? ≠ some '0' := by
  have hlength := length_zeroPadded (s + 1) (decimal m)
  by_cases hs : (decimal m).length ≤ s
  · have hone : (zeroPadded (s + 1) (decimal m)).length - s = 1 := by omega
    have hpad : s + 1 - (decimal m).length = (s - (decimal m).length) + 1 := by omega
    left
    rw [wholeDigits, hone, zeroPadded, hpad, List.replicate_succ]
    rfl
  · have hpad : s + 1 - (decimal m).length = 0 := by omega
    have hnone : zeroPadded (s + 1) (decimal m) = decimal m := by
      rw [zeroPadded, hpad]
      rfl
    rw [wholeDigits, hnone]
    rcases Nat.eq_zero_or_pos m with rfl | hm
    · have hzero : s = 0 := by
        have : (decimal 0).length = 1 := rfl
        omega
      rw [hzero]
      exact .inl rfl
    · right
      rw [List.head?_take, if_neg (by omega)]
      exact head?_decimal hm

end Digits

section Reading

variable (m : Nat) {s : Nat}

lemma number_wholeDigits (s : Nat) : number (wholeDigits m s) * 10 ^ s + number (fractionDigits m s) = m := by
  have hnumber := number_digits m s
  rwa [number_append, length_digits (isDigit_fractionDigits m s), length_fractionDigits] at hnumber

lemma foldlM_wholeDigits (s : Nat) (hm : m < limit) :
    (wholeDigits m s).foldlM Numeral.exactStep {} = some ⟨number (wholeDigits m s), 0, false, true⟩ := by
  have hnumber := number_wholeDigits m s
  have hmul := Nat.le_mul_of_pos_right (number (wholeDigits m s)) (Nat.pow_pos (n := s) (by decide : 0 < 10))
  have hplaces := places_of_digits (isDigit_wholeDigits m s)
  rw [Numeral.foldlM_exactStep_digits (isDigit_wholeDigits m s) (fun _ => rfl), Numeral.mantissaWith_start,
    Numeral.scaleWith_start, hplaces]
  · simp [wholeDigits_ne_nil]
  · rw [Numeral.mantissaWith_start]
    omega
  · rw [Numeral.scaleWith_start, hplaces]
    exact Nat.zero_le _

lemma foldlM_fractionDigits (hm : m < limit) (hs : s ≤ maxScale) :
    (fractionDigits m s).foldlM Numeral.exactStep ⟨number (wholeDigits m s), 0, true, true⟩ =
      some ⟨m, s, true, true⟩ := by
  have hmant : (⟨number (wholeDigits m s), 0, true, true⟩ : Numeral).mantissaWith (fractionDigits m s) = m := by
    rw [Numeral.mantissaWith, length_digits (isDigit_fractionDigits m s), length_fractionDigits]
    exact number_wholeDigits m s
  have hscale : (⟨number (wholeDigits m s), 0, true, true⟩ : Numeral).scaleWith (fractionDigits m s) = s := by
    simp [Numeral.scaleWith, length_digits (isDigit_fractionDigits m s), length_fractionDigits]
  rw [Numeral.foldlM_exactStep_digits (isDigit_fractionDigits m s) (by simp), hmant, hscale]
  · rfl
  · rwa [hmant]
  · rwa [hscale]

lemma whole?_renderDigits (hm : m < limit) (hs : s ≤ maxScale) :
    Numeral.whole? (renderDigits m s) = some ⟨m, s, decide (s ≠ 0), true⟩ := by
  have hall : (renderDigits m s).foldlM Numeral.exactStep {} = some ⟨m, s, decide (s ≠ 0), true⟩ := by
    rw [renderDigits_eq, List.foldlM_append, foldlM_wholeDigits m s hm]
    by_cases hzero : s = 0
    · have hempty : fractionDigits m 0 = [] := List.eq_nil_of_length_eq_zero (length_fractionDigits m 0)
      have hnumber := number_wholeDigits m 0
      rw [hempty] at hnumber
      have hwhole : number (wholeDigits m 0) = m := by simpa [number, digits] using hnumber
      simp [hzero, hwhole]
    · have hpoint : Numeral.exactStep ⟨number (wholeDigits m s), 0, false, true⟩ '.' =
          some ⟨number (wholeDigits m s), 0, true, true⟩ := rfl
      simp [hzero, hpoint, foldlM_fractionDigits m hm hs]
  rw [Numeral.whole?, hall]
  rfl

end Reading

lemma signed_renderDigits (m s : Nat) : signed (renderDigits m s) = (false, renderDigits m s) := by
  obtain ⟨c, cs, hcs⟩ := List.exists_cons_of_ne_nil (wholeDigits_ne_nil m s)
  have hc : c.isDigit := isDigit_wholeDigits m s c (by simp [hcs])
  rw [renderDigits_eq, hcs, List.cons_append]
  unfold signed
  split
  · next h =>
    cases h
    exact absurd hc (by decide)
  · next h =>
    cases h
    exact absurd hc (by decide)
  · rfl

lemma withSign?_natAbs (a : Amount) :
    withSign? (decide (a.coefficient < 0)) a.coefficient.natAbs a.scale = some a := by
  refine of?_eq_some_iff.mpr ⟨?_, rfl⟩
  by_cases h : a.coefficient < 0
  · simp only [h, decide_true, if_true]
    omega
  · simp only [h, decide_false, Bool.false_eq_true, if_false]
    omega

lemma signed_render (a : Amount) :
    signed a.render = (decide (a.coefficient < 0), renderDigits a.coefficient.natAbs a.scale) := by
  rw [render]
  by_cases h : a.coefficient < 0
  · simp only [h, if_true, decide_true]
    rfl
  · simp only [h, if_false, decide_false]
    exact signed_renderDigits _ _

theorem readExact?_render (a : Amount) : readExact? a.render = some a := by
  rw [readExact?, signed_render, whole?_renderDigits _ a.coefficient_lt a.scale_le]
  exact withSign?_natAbs a

lemma Numeral.rounded?_of_foldlM {n m : Numeral} {cs : List Char} (h : cs.foldlM exactStep n = some m)
    (hstarted : m.started) : n.rounded? cs = some m := by
  induction cs generalizing n with
  | nil =>
    cases h
    exact if_pos hstarted
  | cons c cs ih =>
    rw [List.foldlM_cons] at h
    obtain ⟨k, hstep, hrest⟩ := Option.bind_eq_some_iff.mp h
    unfold exactStep at hstep
    split at hstep
    · cases hstep
    · cases hd : digit? c with
      | some d =>
        by_cases hholds : (n.pushDigit d).holds
        · simp only [hd, if_pos hholds, Option.some.injEq] at hstep
          rw [← hstep] at hrest
          simp only [rounded?, hd, if_pos hholds, ih hrest]
        · simp [hd, hholds] at hstep
      | none =>
        simp only [hd] at hstep
        simp only [rounded?, hd, hstep, Option.bind_some, ih hrest]

theorem readStored?_render (a : Amount) : readStored? a.render = some a := by
  have hwhole := whole?_renderDigits _ a.coefficient_lt a.scale_le
  obtain ⟨hall, hstarted⟩ := Option.filter_eq_some_iff.mp hwhole
  have hrounded : readRounded? a.render = some a := by
    rw [readRounded?, signed_render, Numeral.rounded?_of_foldlM hall hstarted]
    exact withSign?_natAbs a
  rw [readStored?, hrounded, Option.some_or]

theorem text_injective {a b : Amount} (h : a.text = b.text) : a = b := by
  have hrender : a.render = b.render := String.ofList_injective h
  have hread := readExact?_render a
  rw [hrender, readExact?_render b] at hread
  exact (Option.some.inj hread).symm

/-! ### Without zeros at the end -/

lemma strip_spec (c : Int) (s : Nat) :
    (strip c s).2 ≤ s ∧ c = (strip c s).1 * 10 ^ (s - (strip c s).2) := by
  induction s generalizing c with
  | zero => simp [strip]
  | succ s ih =>
    unfold strip
    split
    · next h =>
      obtain ⟨hle, heq⟩ := ih (c / 10)
      refine ⟨by omega, ?_⟩
      rw [Nat.succ_sub hle, pow_succ, ← mul_assoc, ← heq]
      omega
    · simp

lemma strip_neg (c : Int) (s : Nat) : strip (-c) s = (-(strip c s).1, (strip c s).2) := by
  induction s generalizing c with
  | zero => rfl
  | succ s ih =>
    by_cases h : c % 10 = 0
    · have hneg : -c % 10 = 0 := by omega
      have hdiv : -c / 10 = -(c / 10) := by omega
      rw [strip, strip, if_pos h, if_pos hneg, hdiv, ih]
    · have hneg : ¬ -c % 10 = 0 := by omega
      rw [strip, strip, if_neg h, if_neg hneg]

lemma strip_zero (s : Nat) : strip 0 s = (0, 0) := by
  induction s with
  | zero => rfl
  | succ s ih => exact ih

lemma strip_pos {c : Int} (h : 0 < c) (s : Nat) : 0 < (strip c s).1 := by
  obtain ⟨-, heq⟩ := strip_spec c s
  rw [heq] at h
  exact pos_of_mul_pos_left h (by positivity)

lemma strip_natCast_nonneg (m s : Nat) : 0 ≤ (strip m s).1 := by
  obtain ⟨-, heq⟩ := strip_spec m s
  have hpos : (0 : Int) ≤ (strip m s).1 * 10 ^ (s - (strip m s).2) := by omega
  exact nonneg_of_mul_nonneg_left hpos (by positivity)

lemma value_normalize (a : Amount) : a.normalize.value = a.value := by
  obtain ⟨hle, heq⟩ := strip_spec a.coefficient a.scale
  rw [value_eq_iff_coefficientAt (s := a.scale) hle le_rfl, coefficientAt_scale]
  exact heq.symm

theorem normalize_text_eq_iff {a b : Amount} : a.normalize.text = b.normalize.text ↔ a.value = b.value := by
  constructor
  · intro h
    rw [← value_normalize a, ← value_normalize b, text_injective h]
  · intro h
    rw [normalize_eq_of_value_eq h]

end Amount

end Passbook
