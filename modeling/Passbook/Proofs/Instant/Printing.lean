import Passbook.Proofs.Amount.Sending
import Passbook.Proofs.Instant.Calendar

/-! Printed instants. What is printed of an instant is read as that instant, part by part, with the nanoseconds of a leap
second and a year of any number of digits. -/

namespace Passbook

namespace Text

lemma length_decimal_le {n k : Nat} (hk : 0 < k) (h : n < 10 ^ k) : (decimal n).length ≤ k :=
  (Nat.length_toDigits_le_iff (by decide) hk).mpr h

lemma length_zeroPadded_decimal {n k : Nat} (hk : 0 < k) (h : n < 10 ^ k) : (zeroPadded k (decimal n)).length = k := by
  rw [length_zeroPadded]
  exact Nat.max_eq_left (length_decimal_le hk h)

end Text

namespace Instant

open Text

section Digits

variable {ds rest : List Char} {width : Option Nat} {value n : Nat}

/-- A reader with room for `n` digits stops behind them, whatever number it has by then. -/
structure StopsAfter (width : Option Nat) (n : Nat) (rest : List Char) : Prop where
  room : ∀ k ∈ width, n ≤ k
  stop : ∀ value, digits (width.map (· - n)) value rest = .ok (value, rest)

namespace StopsAfter

lemma full (n : Nat) (rest : List Char) : StopsAfter (some n) n rest := by
  constructor
  · rintro k ⟨rfl⟩
    exact le_rfl
  · intro value
    rw [Option.map_some, Nat.sub_self]
    cases rest <;> rfl

lemma mark {c : Char} (hc : c.isDigit = false) (hroom : ∀ k ∈ width, n ≤ k) (cs : List Char) :
    StopsAfter width n (c :: cs) := by
  refine ⟨hroom, fun value => ?_⟩
  rw [digits]
  split
  · rfl
  · simp [digit?, hc]

lemma nil (n : Nat) : StopsAfter none n [] := ⟨by rintro k ⟨⟩, fun _ => rfl⟩

lemma ne_zero (h : StopsAfter width (n + 1) rest) : width ≠ some 0 := by
  rintro rfl
  exact absurd (h.room 0 rfl) (Nat.not_succ_le_zero n)

lemma tail (h : StopsAfter width (n + 1) rest) : StopsAfter (width.map (· - 1)) n rest := by
  constructor
  · intro k hk
    obtain ⟨j, hj, rfl⟩ := Option.mem_map.mp hk
    exact Nat.le_sub_of_add_le (h.room j hj)
  · intro value
    rw [Option.map_map, ← h.stop value]
    congr 1
    cases width <;> simp [Nat.sub_sub, Nat.add_comm]

end StopsAfter

lemma digits_append (hds : ∀ c ∈ ds, c.isDigit) (hbound : value * 10 ^ ds.length + Text.number ds < Nat.pow 2 63)
    (hstop : StopsAfter width ds.length rest) :
    digits width value (ds ++ rest) = .ok (value * 10 ^ ds.length + Text.number ds, rest) := by
  induction ds generalizing width value with
  | nil =>
    have hread := hstop.stop value
    simpa [Text.number, Text.digits] using hread
  | cons c cs ih =>
    obtain ⟨hc, hcs⟩ := List.forall_mem_cons.mp hds
    obtain ⟨d, hd⟩ := digit?_of_isDigit hc
    have hnumber : value * 10 ^ (c :: cs).length + Text.number (c :: cs) =
        (10 * value + d) * 10 ^ cs.length + Text.number cs := by
      rw [number_cons_of_digit hd, Text.length_digits hcs, List.length_cons, Nat.pow_succ]
      ring
    rw [hnumber] at hbound ⊢
    have hlt : 10 * value + d < Nat.pow 2 63 := by
      have hpow := Nat.le_mul_of_pos_right (10 * value + d) (Nat.pow_pos (n := cs.length) (by decide : 0 < 10))
      omega
    rw [List.cons_append, digits, if_neg hstop.ne_zero, hd]
    exact (if_pos hlt).trans (ih hcs hbound hstop.tail)

lemma digits_start (hds : ∀ c ∈ ds, c.isDigit) (hbound : Text.number ds < Nat.pow 2 63)
    (hstop : StopsAfter width ds.length rest) : digits width 0 (ds ++ rest) = .ok (Text.number ds, rest) := by
  rw [digits_append hds (by rwa [Nat.zero_mul, Nat.zero_add]) hstop, Nat.zero_mul, Nat.zero_add]

lemma number_append (hne : ds ≠ []) (hds : ∀ c ∈ ds, c.isDigit) (hbound : Text.number ds < Nat.pow 2 63)
    (hstop : StopsAfter width ds.length rest) : number width (ds ++ rest) = .ok (Text.number ds, rest) := by
  have hdigits := digits_start hds hbound hstop
  obtain ⟨c, cs, rfl⟩ := List.exists_cons_of_ne_nil hne
  rw [List.cons_append] at hdigits ⊢
  rw [number, if_pos (hds c List.mem_cons_self), hdigits]

end Digits

section Padded

variable {n k : Nat}

lemma isDigit_padded (k n : Nat) : ∀ c ∈ zeroPadded k (decimal n), c.isDigit :=
  isDigit_zeroPadded k (isDigit_decimal n)

lemma number_padded (k n : Nat) : Text.number (zeroPadded k (decimal n)) = n := by
  rw [number_zeroPadded, number_decimal]

lemma padded_ne_nil (k n : Nat) : zeroPadded k (decimal n) ≠ [] := by
  rw [zeroPadded]
  exact List.append_ne_nil_of_right_ne_nil _ (decimal_ne_nil n)

lemma exists_padded (k n : Nat) (rest : List Char) :
    ∃ c cs, c.isDigit ∧ zeroPadded k (decimal n) ++ rest = c :: cs := by
  obtain ⟨c, cs, hcs⟩ := List.exists_cons_of_ne_nil (padded_ne_nil k n)
  refine ⟨c, cs ++ rest, isDigit_padded k n c ?_, ?_⟩
  · rw [hcs]
    exact List.mem_cons_self
  · rw [hcs, List.cons_append]

lemma trimLeft_padded (k n : Nat) (rest : List Char) :
    trimLeft (zeroPadded k (decimal n) ++ rest) = zeroPadded k (decimal n) ++ rest :=
  trimLeft_of_not_space (padded_ne_nil k n) (fun c hc => isSpace_of_isDigit (isDigit_padded k n c hc)) rest

lemma number_of_padded {width : Option Nat} {rest : List Char} (hn : n < Nat.pow 2 63)
    (hstop : StopsAfter width (zeroPadded k (decimal n)).length rest) :
    number width (zeroPadded k (decimal n) ++ rest) = .ok (n, rest) := by
  rw [number_append (padded_ne_nil k n) (isDigit_padded k n) (by rwa [number_padded]) hstop, number_padded]

end Padded

lemma mark_cons {c : Char} (hc : isSpace c = false) (cs : List Char) : mark c (c :: cs) = .ok ((), cs) := by
  rw [mark, trimLeft_cons _ hc]
  exact if_pos rfl

lemma numberIn_pair {n low high : Nat} (hlow : low ≤ n) (hhigh : n ≤ high) (h : high < 100) (rest : List Char) :
    numberIn 2 low high (pair n ++ rest) = .ok (n, rest) := by
  have hlength : (zeroPadded 2 (decimal n)).length = 2 := length_zeroPadded_decimal (by decide) (by omega)
  have hread : number (some 2) (pair n ++ rest) = .ok (n, rest) := by
    apply number_of_padded
    · exact Nat.lt_trans (by omega : n < 100) (by decide)
    · rw [hlength]
      exact .full 2 rest
  rw [numberIn, pair, trimLeft_padded, ← pair, hread]
  simp [bind, Except.bind, hlow, hhigh]

section Year

variable {y : Int} {c : Char}

lemma number_of_year {width : Option Nat} (hy : y.natAbs ≤ 262143) (hwidth : ∀ j ∈ width, j = 4 ∧ y.natAbs ≤ 9999)
    (hc : c.isDigit = false) (cs : List Char) :
    number width (zeroPadded 4 (decimal y.natAbs) ++ c :: cs) = .ok (y.natAbs, c :: cs) := by
  apply number_of_padded
  · exact Nat.lt_of_le_of_lt hy (by decide)
  · refine .mark hc ?_ cs
    intro j hj
    obtain ⟨rfl, hsmall⟩ := hwidth j hj
    exact (length_zeroPadded_decimal (by decide) (Nat.lt_succ_of_le hsmall)).le

lemma year_renderYear (hmin : Calendar.minYear ≤ y) (hmax : y ≤ Calendar.maxYear) (hc : c.isDigit = false)
    (cs : List Char) : year (renderYear y ++ c :: cs) = .ok (y, c :: cs) := by
  have hle : y.natAbs ≤ 262143 := by
    unfold Calendar.minYear at hmin
    unfold Calendar.maxYear at hmax
    omega
  have hlow : -Int.pow 2 31 ≤ y := Int.le_trans (by decide) hmin
  have hhigh : y < Int.pow 2 31 := Int.lt_of_le_of_lt hmax (by decide)
  have hlong : number none (zeroPadded 4 (decimal y.natAbs) ++ c :: cs) = .ok (y.natAbs, c :: cs) :=
    number_of_year hle (by rintro j ⟨⟩) hc cs
  rw [renderYear, year]
  by_cases hneg : y < 0
  · have habs : -(y.natAbs : Int) = y := by omega
    rw [if_pos hneg, List.singleton_append, List.cons_append, trimLeft_cons _ (by decide)]
    simp only [hlong, Except.map, bind, Except.bind, habs, hlow, hhigh, decide_true, Bool.and_self, if_true]
  · have habs : (y.natAbs : Int) = y := by omega
    rw [if_neg hneg]
    by_cases hbig : 9999 < y
    · rw [if_pos hbig, List.singleton_append, List.cons_append, trimLeft_cons _ (by decide)]
      simp only [hlong, Except.map, bind, Except.bind, habs, hlow, hhigh, decide_true, Bool.and_self, if_true]
    · have hshort : number (some 4) (zeroPadded 4 (decimal y.natAbs) ++ c :: cs) = .ok (y.natAbs, c :: cs) :=
        number_of_year hle (by rintro j ⟨rfl⟩; exact ⟨rfl, by omega⟩) hc cs
      rw [if_neg hbig, List.nil_append, trimLeft_padded]
      obtain ⟨d, ds, hd, hds⟩ := exists_padded 4 y.natAbs (c :: cs)
      rw [hds] at hshort ⊢
      split
      · next heq =>
        cases heq
        exact absurd hd (by decide)
      · next heq =>
        cases heq
        exact absurd hd (by decide)
      · simp only [hshort, Except.map, bind, Except.bind, habs, hlow, hhigh, decide_true, Bool.and_self, if_true]

end Year

section Fraction

variable {n k : Nat} {c : Char}

lemma fraction_of_padded (hk : 0 < k) (hk9 : k ≤ 9) (hn : n < 10 ^ k) (hc : c.isDigit = false) (cs : List Char) :
    fraction ('.' :: zeroPadded k (decimal n) ++ c :: cs) = .ok (n * Nat.pow 10 (9 - k), c :: cs) := by
  have hlength : (zeroPadded k (decimal n)).length = k := length_zeroPadded_decimal hk hn
  have hn63 : n < Nat.pow 2 63 := by
    have hpow : 10 ^ k ≤ 10 ^ 9 := Nat.pow_le_pow_right (by decide) hk9
    exact Nat.lt_trans (Nat.lt_of_lt_of_le hn hpow) (by decide)
  have hread : number (some 9) (zeroPadded k (decimal n) ++ c :: cs) = .ok (n, c :: cs) := by
    apply number_of_padded hn63
    refine .mark hc ?_ cs
    rintro j ⟨rfl⟩
    exact hlength.le.trans hk9
  have hwritten : (zeroPadded k (decimal n) ++ c :: cs).take
      ((zeroPadded k (decimal n) ++ c :: cs).length - (c :: cs).length) = zeroPadded k (decimal n) := by
    rw [List.length_append, Nat.add_sub_cancel, List.take_left]
  have hvalue : digits none 0 (zeroPadded k (decimal n)) = .ok (n, []) := by
    have hall : digits none 0 (zeroPadded k (decimal n) ++ []) = .ok (Text.number (zeroPadded k (decimal n)), []) :=
      digits_start (isDigit_padded k n) (by rwa [number_padded]) (.nil _)
    rwa [List.append_nil, number_padded] at hall
  rw [List.cons_append, fraction, hread]
  simp only [bind, Except.bind, hwritten, hvalue, hlength, List.dropWhile_cons, hc]
  rfl

lemma fraction_renderFraction (hn : n < second) (hc : c.isDigit = false) (hpoint : c ≠ '.') (cs : List Char) :
    fraction (renderFraction n ++ c :: cs) = .ok (n, c :: cs) := by
  unfold second at hn
  unfold renderFraction
  split
  · next h =>
    rw [h, List.nil_append]
    unfold fraction
    split
    · next heq =>
      cases heq
      exact absurd rfl hpoint
    · rfl
  · split
    · rw [fraction_of_padded (by decide) (by decide) (by omega) hc]
      simp
      omega
    · split
      · rw [fraction_of_padded (by decide) (by decide) (by omega) hc]
        simp
        omega
      · rw [fraction_of_padded (by decide) (by decide) (by omega) hc]
        simp

end Fraction

section Whole

variable (t : Instant) {y : Int} {m d : Nat}

def shownParts (y : Int) (m d : Nat) : Parts :=
  let clock := (t.seconds % 86400).toNat
  ⟨y, m, d, clock / 3600, clock / 60 % 60, clock % 60 + t.nanos / second, t.nanos % second, 0⟩

lemma nanos_div_le : t.nanos / second ≤ 1 := by
  have hlt := t.nanos_lt
  unfold second at *
  omega

lemma separator_cons (cs : List Char) : separator ('T' :: cs) = .ok ((), cs) := rfl

lemma offset_utc : offset ['Z'] = .ok (0, []) := rfl

lemma parts_render (hdate : Calendar.date (t.seconds / 86400) = (y, m, d)) (his : Calendar.IsDate y m d)
    (hmin : Calendar.minYear ≤ y) (hmax : y ≤ Calendar.maxYear) :
    parts t.render = .ok (t.shownParts y m d, []) := by
  obtain ⟨clock, hclock⟩ : ∃ clock, (t.seconds % 86400).toNat = clock := ⟨_, rfl⟩
  have hday : clock < 86400 := by omega
  have hnanos := t.nanos_div_le
  have hfraction : t.nanos % second < second := Nat.mod_lt _ (by decide)
  have hdash := mark_cons (by decide : isSpace '-' = false)
  have hcolon := mark_cons (by decide : isSpace ':' = false)
  have hyear := year_renderYear hmin hmax (by decide : '-'.isDigit = false)
  have hmonth := numberIn_pair his.month.1 his.month.2 (by decide)
  have hday := numberIn_pair his.day.1 his.day_le (by decide)
  have hhour := numberIn_pair (Nat.zero_le (clock / 3600)) (by omega : _ ≤ 23) (by decide)
  have hminute := numberIn_pair (Nat.zero_le (clock / 60 % 60)) (by omega : _ ≤ 59) (by decide)
  have hsecond := numberIn_pair (Nat.zero_le (clock % 60 + t.nanos / second)) (by omega : _ ≤ 60) (by decide)
  have hplaces := fraction_renderFraction hfraction (by decide : 'Z'.isDigit = false) (by decide) []
  have hutc := trimLeft_cons [] (by decide : isSpace 'Z' = false)
  simp only [render, hdate, hclock, List.append_assoc, List.cons_append, parts, bind, Except.bind, hyear, hdash,
    hmonth, hday, separator_cons, hhour, hcolon, hminute, hsecond, hplaces, hutc, offset_utc, shownParts]

lemma shown_sixty_iff : (t.seconds % 86400).toNat % 60 + t.nanos / second = 60 ↔ second ≤ t.nanos := by
  have hle := t.nanos_div_le
  have hleap := t.leap_at
  unfold second at *
  omega

lemma seconds_of_clock {s : Nat} (hs : (t.seconds % 86400).toNat % 60 = s) :
    t.seconds / 86400 * 86400 + (((t.seconds % 86400).toNat / 3600 : Nat) * 3600 +
      ((t.seconds % 86400).toNat / 60 % 60 : Nat) * 60 + (s : Nat)) - 0 = t.seconds := by
  omega

lemma resolve_shownParts (his : Calendar.IsDate y m d) (hnumber : Calendar.dayNumber y m d = t.seconds / 86400)
    (hmin : Calendar.minYear ≤ y) (hmax : y ≤ Calendar.maxYear) : (t.shownParts y m d).resolve = .ok t := by
  have hrange : ¬ (y < Calendar.minYear ∨ Calendar.maxYear < y ∨ Calendar.daysInMonth y m < d) := by
    rintro (h | h | h)
    · exact absurd hmin (Int.not_le.mpr h)
    · exact absurd hmax (Int.not_le.mpr h)
    · exact absurd his.day.2 (Nat.not_le.mpr h)
  have hoffset : ¬ 86400 ≤ (0 : Int).natAbs := by decide
  have hlt := t.nanos_lt
  have hleap := t.leap_at
  simp only [Parts.resolve, shownParts, if_neg hrange, if_neg hoffset, t.shown_sixty_iff, hnumber]
  by_cases h : second ≤ t.nanos
  · have hlast : (t.seconds % 86400).toNat % 60 = 59 := by
      have hminute := hleap h
      omega
    have hnanos : t.nanos % second + second = t.nanos := by
      unfold second at *
      omega
    rw [if_pos h, if_pos h, t.seconds_of_clock hlast, hnanos, t.of?_self]
    rfl
  · have hdiv : t.nanos / second = 0 := Nat.div_eq_of_lt (Nat.lt_of_not_le h)
    have hnanos : t.nanos % second = t.nanos := Nat.mod_eq_of_lt (Nat.lt_of_not_le h)
    rw [if_neg h, if_neg h, hdiv, Nat.add_zero, Nat.add_zero, t.seconds_of_clock rfl, hnanos, t.of?_self]
    rfl

theorem read_render : read t.render = .ok t := by
  obtain ⟨y, m, d, hdate, his, hnumber⟩ := Calendar.exists_date (t.seconds / 86400)
  have hmin : Calendar.minYear ≤ y := by
    apply Calendar.minYear_le his
    have hfirst := t.seconds_ge
    unfold first at hfirst
    omega
  have hmax : y ≤ Calendar.maxYear := by
    apply Calendar.le_maxYear his
    have hlast := t.seconds_le
    unfold last at hlast
    omega
  rw [read, t.parts_render hdate his hmin hmax]
  exact t.resolve_shownParts his hnumber hmin hmax

end Whole

end Instant

end Passbook
