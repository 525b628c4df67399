import Mathlib.Data.List.TakeWhile
import Mathlib.Data.Nat.Digits.Defs
import Passbook.Amount.Reader
import Passbook.Proofs.Amount.Rounding
import Passbook.Wire.Basic

/-! What the text of an amount denotes: its digits over a power of ten, times a power of ten. What is read is that
number, unless the part before an exponent has more digits than an amount can hold. -/

namespace Passbook

namespace Text

def digits (cs : List Char) : List Nat := cs.filterMap digit?

def number (cs : List Char) : Nat := Nat.ofDigits 10 (digits cs).reverse

variable {c : Char} {cs : List Char} {d : Nat}

lemma digits_cons_of_digit (h : digit? c = some d) : digits (c :: cs) = d :: digits cs := List.filterMap_cons_some h

lemma digits_cons_of_mark (h : digit? c = none) : digits (c :: cs) = digits cs := List.filterMap_cons_none h

lemma number_cons_of_digit (h : digit? c = some d) : number (c :: cs) = d * 10 ^ (digits cs).length + number cs := by
  rw [number, digits_cons_of_digit h, List.reverse_cons, Nat.ofDigits_append, List.length_reverse,
    Nat.ofDigits_singleton, number]
  ring

lemma number_cons_of_mark (h : digit? c = none) : number (c :: cs) = number cs := by
  rw [number, digits_cons_of_mark h, number]

lemma digit?_lt (h : digit? c = some d) : d < 10 := by
  unfold digit? at h
  split at h
  · next hc =>
    cases h
    simp only [Char.isDigit, Bool.and_eq_true, decide_eq_true_eq, UInt32.le_iff_toNat_le] at hc
    have hle : c.toNat ≤ 57 := hc.2
    omega
  · cases h

lemma number_lt (cs : List Char) : number cs < 10 ^ (digits cs).length := by
  induction cs with
  | nil => simp [number, digits]
  | cons c cs ih =>
    cases h : digit? c with
    | none => rwa [number_cons_of_mark h, digits_cons_of_mark h]
    | some d =>
      have hd := digit?_lt h
      rw [number_cons_of_digit h, digits_cons_of_digit h, List.length_cons, Nat.pow_succ]
      have hmul : (d + 1) * 10 ^ (digits cs).length ≤ 10 * 10 ^ (digits cs).length := Nat.mul_le_mul_right _ hd
      rw [Nat.succ_mul] at hmul
      omega

def places (cs : List Char) : Nat := (digits (cs.dropWhile (· != '.'))).length

def unit (negative : Bool) : Int := if negative then -1 else 1

def sign (cs : List Char) : Int := unit (cs.head? == some '-')

lemma places_cons {c : Char} {cs : List Char} (h : c ≠ '.') : places (c :: cs) = places cs := by
  simp [places, h]

lemma places_point (cs : List Char) : places ('.' :: cs) = (digits cs).length := by
  simp [places, digits_cons_of_mark (c := '.') rfl]

lemma foldlM_unsignedStep {bound v n : Nat} {cs : List Char} (h : cs.foldlM (unsignedStep bound) v = .ok n) :
    n = v * 10 ^ (digits cs).length + number cs := by
  induction cs generalizing v with
  | nil =>
    cases h
    simp [digits, number]
  | cons c cs ih =>
    rw [List.foldlM_cons, unsignedStep] at h
    cases hd : digit? c with
    | none => simp [hd, bind, Except.bind] at h
    | some d =>
      simp only [hd] at h
      split at h
      · rw [ih h, number_cons_of_digit hd, digits_cons_of_digit hd, List.length_cons]
        ring
      · cases h

lemma sign_of_not_minus {cs : List Char} (h : ∀ rest, cs = '-' :: rest → False) : sign cs = 1 := by
  cases cs with
  | nil => rfl
  | cons c cs =>
    have hc : c ≠ '-' := by
      rintro rfl
      exact h cs rfl
    simp [sign, unit, hc]

lemma number_of_unsigned? {bound n : Nat} {cs : List Char} (h : (unsigned? bound cs).toOption = some n) :
    n = number cs := by
  replace h : unsigned? bound cs = .ok n := by
    cases hu : unsigned? bound cs with
    | error e => simp [hu, Except.toOption] at h
    | ok k =>
      rw [hu] at h
      cases h
      rfl
  unfold unsigned? at h
  split at h
  · cases h
  · cases h
  · rw [number_cons_of_mark (c := '+') rfl]
    simpa using foldlM_unsignedStep h
  · simpa using foldlM_unsignedStep h

end Text

namespace Amount

open Text

/-- The number that a numeral denotes, without an exponent. -/
def plainValue (cs : List Char) : Rat := sign cs * number cs / 10 ^ places cs

def base (cs : List Char) : List Char := cs.takeWhile (!isExponentMark ·)

def power (cs : List Char) : Int :=
  sign (cs.dropWhile (!isExponentMark ·)).tail * number (cs.dropWhile (!isExponentMark ·)).tail

def denoted (cs : List Char) : Rat := plainValue (base cs) * 10 ^ power cs

namespace Numeral

def mantissaWith (n : Numeral) (cs : List Char) : Nat := n.mantissa * 10 ^ (digits cs).length + number cs

def scaleWith (n : Numeral) (cs : List Char) : Nat := n.scale + if n.pointed then (digits cs).length else places cs

variable {n n' : Numeral} {c : Char} {cs : List Char} {d : Nat}

lemma mantissaWith_pushDigit (h : digit? c = some d) : (n.pushDigit d).mantissaWith cs = n.mantissaWith (c :: cs) := by
  simp only [mantissaWith, pushDigit, number_cons_of_digit h, digits_cons_of_digit h, List.length_cons]
  ring

lemma scaleWith_pushDigit (h : digit? c = some d) : (n.pushDigit d).scaleWith cs = n.scaleWith (c :: cs) := by
  have hc : c ≠ '.' := by
    rintro rfl
    cases h
  cases hp : n.pointed with
  | false => simp [scaleWith, pushDigit, hp, places_cons hc]
  | true =>
    simp only [scaleWith, pushDigit, hp, if_true, digits_cons_of_digit h, List.length_cons]
    omega

lemma with_pushMark (cs : List Char) (h : n.pushMark c = some n') :
    digit? c = none ∧ n'.mantissaWith cs = n.mantissaWith (c :: cs) ∧ n'.scaleWith cs = n.scaleWith (c :: cs) := by
  unfold pushMark at h
  split at h
  · next hc =>
    obtain ⟨rfl, hp⟩ : c = '.' ∧ n.pointed = false := by simpa using hc
    cases h
    have hd : digit? '.' = none := rfl
    simp [mantissaWith, scaleWith, number_cons_of_mark hd, digits_cons_of_mark hd, hp, places_point, hd]
  · split at h
    · next hc =>
      obtain ⟨rfl, -⟩ : c = '_' ∧ n.started = true := by simpa using hc
      cases h
      have hd : digit? '_' = none := rfl
      simp [mantissaWith, scaleWith, number_cons_of_mark hd, digits_cons_of_mark hd, hd, places_cons (c := '_')]
    · cases h

lemma mantissaWith_nil : n.mantissaWith [] = n.mantissa := by simp [mantissaWith, digits, number]

lemma scaleWith_nil : n.scaleWith [] = n.scale := by simp [scaleWith, places, digits]

lemma mantissaWith_start (cs : List Char) : ({} : Numeral).mantissaWith cs = number cs := by simp [mantissaWith]

lemma scaleWith_start (cs : List Char) : ({} : Numeral).scaleWith cs = places cs := by simp [scaleWith]

lemma with_exactStep (cs : List Char) (h : n.exactStep c = some n') :
    n'.mantissaWith cs = n.mantissaWith (c :: cs) ∧ n'.scaleWith cs = n.scaleWith (c :: cs) := by
  unfold exactStep at h
  split at h
  · cases h
  · split at h
    · next hd =>
      split at h
      · cases h
        exact ⟨mantissaWith_pushDigit hd, scaleWith_pushDigit hd⟩
      · cases h
    · exact (with_pushMark cs h).2

lemma isExponentMark_of_exactStep (h : n.exactStep c = some n') : isExponentMark c = false := by
  cases hc : isExponentMark c with
  | false => rfl
  | true =>
    obtain rfl | rfl : c = 'e' ∨ c = 'E' := by simpa [isExponentMark] using hc
    all_goals simp [exactStep, digit?, pushMark] at h

lemma foldlM_exactStep (h : cs.foldlM exactStep n = some n') :
    n'.mantissa = n.mantissaWith cs ∧ n'.scale = n.scaleWith cs ∧ ∀ c ∈ cs, isExponentMark c = false := by
  induction cs generalizing n with
  | nil =>
    cases h
    exact ⟨mantissaWith_nil.symm, scaleWith_nil.symm, by simp⟩
  | cons c cs ih =>
    obtain ⟨m, hm, h⟩ := Option.bind_eq_some_iff.mp (by simpa [List.foldlM_cons] using h)
    obtain ⟨hmant, hscale⟩ := with_exactStep cs hm
    obtain ⟨hmant', hscale', hmarks⟩ := ih h
    exact ⟨hmant'.trans hmant, hscale'.trans hscale,
      List.forall_mem_cons.mpr ⟨isExponentMark_of_exactStep hm, hmarks⟩⟩

lemma whole?_exact (h : whole? cs = some n) :
    n.mantissa = number cs ∧ n.scale = places cs ∧ ∀ c ∈ cs, isExponentMark c = false := by
  obtain ⟨h, -⟩ := Option.filter_eq_some_iff.mp h
  simpa only [mantissaWith_start, scaleWith_start] using foldlM_exactStep h

def Fits (m s : Nat) : Prop := ∃ c t : Nat, c < limit ∧ t ≤ maxScale ∧ c * 10 ^ s = m * 10 ^ t

lemma number_eq_zero_of_fits (hd : digit? c = some d) (hpoint : n.pointed) (hholds : ¬ (n.pushDigit d).holds)
    (hfits : Fits (n.mantissaWith (c :: cs)) (n.scaleWith (c :: cs))) : number (c :: cs) = 0 := by
  obtain ⟨k, t, hk, ht, heq⟩ := hfits
  have hlt := number_lt (c :: cs)
  simp only [mantissaWith, scaleWith, hpoint, if_true] at heq
  by_cases hts : t ≤ n.scale
  · -- A coarser amount is the mantissa with a multiple of its own unit, and what is left is below that unit.
    have hsplit : n.scale + (digits (c :: cs)).length = n.scale - t + (digits (c :: cs)).length + t := by omega
    rw [hsplit, pow_add, ← Nat.mul_assoc] at heq
    have hmul := Nat.eq_of_mul_eq_mul_right (by positivity) heq
    rw [pow_add, ← Nat.mul_assoc] at hmul
    have hdvd : 10 ^ (digits (c :: cs)).length ∣ number (c :: cs) :=
      (Nat.dvd_add_right (Nat.dvd_mul_left _ _)).mp ⟨_, by rw [← hmul, Nat.mul_comm]⟩
    exact Nat.eq_zero_of_dvd_of_lt hdvd hlt
  · -- A finer amount has one digit more than `n`, for which there is no room.
    have hfull : limit ≤ 10 * n.mantissa + d := by
      have hscale : n.scale + 1 ≤ maxScale := by omega
      simpa [holds, pushDigit, hpoint, hscale] using hholds
    rw [number_cons_of_digit hd, digits_cons_of_digit hd, List.length_cons] at heq
    have hsplit : n.scale + ((digits cs).length + 1) = n.scale + 1 + (digits cs).length := by omega
    rw [hsplit, pow_add 10 (n.scale + 1)] at heq
    have hpow : 10 ^ (n.scale + 1) ≤ 10 ^ t := Nat.pow_le_pow_right (by decide) (by omega)
    have hlow : limit * 10 ^ (digits cs).length ≤
        n.mantissa * 10 ^ ((digits cs).length + 1) + (d * 10 ^ (digits cs).length + number cs) := by
      have := Nat.mul_le_mul_right (10 ^ (digits cs).length) hfull
      rw [pow_succ]
      nlinarith
    have hlt : k * (10 ^ (n.scale + 1) * 10 ^ (digits cs).length) <
        limit * (10 ^ (n.scale + 1) * 10 ^ (digits cs).length) := Nat.mul_lt_mul_of_pos_right hk (by positivity)
    have hle := Nat.mul_le_mul hlow hpow
    rw [← heq] at hle
    have hcomm : limit * 10 ^ (digits cs).length * 10 ^ (n.scale + 1) =
        limit * (10 ^ (n.scale + 1) * 10 ^ (digits cs).length) := by ring
    omega

lemma rounded?_exact (h : rounded? n cs = some n') (hfits : Fits (n.mantissaWith cs) (n.scaleWith cs)) :
    n'.mantissa * 10 ^ n.scaleWith cs = n.mantissaWith cs * 10 ^ n'.scale := by
  induction cs generalizing n with
  | nil =>
    unfold rounded? at h
    split at h
    · cases h
      rw [mantissaWith_nil, scaleWith_nil]
    · cases h
  | cons c cs ih =>
    unfold rounded? at h
    split at h
    · next d hd =>
      split at h
      · rw [← mantissaWith_pushDigit hd, ← scaleWith_pushDigit hd] at hfits ⊢
        exact ih h hfits
      · next hholds =>
        split at h
        · next hpoint =>
          simp only [Bool.and_eq_true] at hpoint
          have hzero := number_eq_zero_of_fits hd hpoint.1 hholds hfits
          have hd0 : d = 0 := by
            rw [number_cons_of_digit hd] at hzero
            simpa using (Nat.add_eq_zero_iff.mp hzero).1
          subst hd0
          cases h
          simp only [mantissaWith, scaleWith, hpoint.1, if_true, hzero]
          ring
        · cases h
    · obtain ⟨m, hm, h⟩ := Option.bind_eq_some_iff.mp h
      obtain ⟨-, hmant, hscale⟩ := with_pushMark cs hm
      rw [← hmant, ← hscale] at hfits ⊢
      exact ih h hfits

end Numeral

section Values

variable {a b : Amount} {cs : List Char} {negative : Bool} {m e : Nat}

lemma signed_eq (cs : List Char) :
    unit (signed cs).1 = sign cs ∧ number (signed cs).2 = number cs ∧ places (signed cs).2 = places cs := by
  unfold signed
  split
  · simp [sign, unit, number_cons_of_mark (c := '-') rfl, places_cons (c := '-')]
  · simp [sign, unit, number_cons_of_mark (c := '+') rfl, places_cons (c := '+')]
  · next hminus hplus => exact ⟨(sign_of_not_minus hminus).symm, rfl, rfl⟩

lemma not_mark_of_signed (h : ∀ c ∈ (signed cs).2, isExponentMark c = false) : ∀ c ∈ cs, isExponentMark c = false := by
  unfold signed at h
  split at h
  · exact List.forall_mem_cons.mpr ⟨rfl, h⟩
  · exact List.forall_mem_cons.mpr ⟨rfl, h⟩
  · exact h

lemma withSign?_value {s : Nat} (h : withSign? negative m s = some a) :
    a.value = unit negative * m / 10 ^ s := by
  obtain ⟨hc, hs⟩ := of?_eq_some_iff.mp h
  rw [value_eq_div, hc, hs]
  cases negative <;> simp [unit]

lemma fits_of_holds {s : Nat} (h : Holds (unit negative * m / 10 ^ s)) : Numeral.Fits m s := by
  obtain ⟨a, ha⟩ := h
  refine ⟨a.coefficient.natAbs, a.scale, a.coefficient_lt, a.scale_le, ?_⟩
  rw [value_eq_div, div_eq_div_iff (by positivity) (by positivity)] at ha
  have hint : a.coefficient * 10 ^ s = unit negative * m * 10 ^ a.scale := by exact_mod_cast ha
  have habs := congrArg Int.natAbs hint
  have hunit : (unit negative).natAbs = 1 := by cases negative <;> rfl
  simpa [Int.natAbs_mul, Int.natAbs_pow, hunit] using habs

lemma readExact?_value (h : readExact? cs = some a) :
    a.value = plainValue cs ∧ ∀ c ∈ cs, isExponentMark c = false := by
  obtain ⟨n, hn, h⟩ := Option.bind_eq_some_iff.mp h
  obtain ⟨hunit, hnumber, hplaces⟩ := signed_eq cs
  obtain ⟨hmant, hscale, hmarks⟩ := Numeral.whole?_exact hn
  refine ⟨?_, not_mark_of_signed hmarks⟩
  rw [withSign?_value h, plainValue, hmant, hscale, hunit, hnumber, hplaces]

lemma readRounded?_value_iff (h : readRounded? cs = some a) : a.value = plainValue cs ↔ Holds (plainValue cs) := by
  refine ⟨fun hv => ⟨a, hv⟩, fun hholds => ?_⟩
  obtain ⟨n, hn, h⟩ := Option.bind_eq_some_iff.mp h
  obtain ⟨hunit, hnumber, hplaces⟩ := signed_eq cs
  rw [plainValue, ← hunit, ← hnumber, ← hplaces] at hholds ⊢
  have hexact := Numeral.rounded?_exact hn (by
    rw [Numeral.mantissaWith_start, Numeral.scaleWith_start]
    exact fits_of_holds hholds)
  rw [Numeral.mantissaWith_start, Numeral.scaleWith_start] at hexact
  have hrat : (n.mantissa : Rat) * 10 ^ places (signed cs).2 = number (signed cs).2 * 10 ^ n.scale := by
    exact_mod_cast hexact
  rw [withSign?_value h, mul_div_assoc, mul_div_assoc, (div_eq_div_iff (by positivity) (by positivity)).mpr hrat]

lemma exponent?_eq (h : exponent? cs = some (negative, e)) : unit negative * e = sign cs * number cs := by
  unfold exponent? at h
  split at h
  · obtain ⟨n, hn, hpair⟩ := Option.map_eq_some_iff.mp h
    cases hpair
    rw [number_of_unsigned? hn, number_cons_of_mark (c := '-') rfl]
    rfl
  · next hminus =>
    obtain ⟨n, hn, hpair⟩ := Option.map_eq_some_iff.mp h
    cases hpair
    rw [number_of_unsigned? hn, sign_of_not_minus hminus]
    rfl

lemma shift?_value (h : a.shift? negative e = some b) : b.value = a.value * 10 ^ (unit negative * e) := by
  unfold shift? at h
  cases negative with
  | true =>
    rw [if_pos rfl] at h
    split at h
    · cases h
    · obtain ⟨hc, hs⟩ := of?_eq_some_iff.mp h
      rw [value_eq_div, value_eq_div, hc, hs, unit, if_pos rfl, neg_one_mul, zpow_neg, zpow_natCast, pow_add]
      field_simp
  | false =>
    rw [if_neg (by decide)] at h
    rw [unit, if_neg (by decide), one_mul, zpow_natCast]
    split at h
    · next hle =>
      obtain ⟨hc, hs⟩ := of?_eq_some_iff.mp h
      have hpow : (10 : Rat) ^ a.scale = 10 ^ (a.scale - e) * 10 ^ e := by rw [← pow_add, Nat.sub_add_cancel hle]
      rw [value_eq_div, value_eq_div, hc, hs, hpow]
      field_simp
    · next hlt =>
      split at h
      · cases h
      · obtain ⟨hc, hs⟩ := of?_eq_some_iff.mp h
        have hpow : (10 : Rat) ^ e = 10 ^ (e - a.scale) * 10 ^ a.scale := by
          rw [← pow_add, Nat.sub_add_cancel (Nat.le_of_not_le hlt)]
        rw [value_eq_div, value_eq_div, hc, hs, hpow]
        push_cast [Nat.pow_eq]
        field_simp

end Values

section Texts

variable {cs : List Char} {a : Amount}

lemma denoted_of_no_mark (h : ∀ c ∈ cs, isExponentMark c = false) : base cs = cs ∧ denoted cs = plainValue cs := by
  have hall : ∀ c ∈ cs, (!isExponentMark c) = true := by simpa using h
  have hbase : base cs = cs := List.takeWhile_eq_self_iff.mpr hall
  refine ⟨hbase, ?_⟩
  rw [denoted, power, List.dropWhile_eq_nil_iff.mpr hall, hbase]
  simp [number, digits]

lemma readScientific?_value (h : readScientific? cs = some a) :
    ∃ b, readRounded? (base cs) = some b ∧ a.value = b.value * 10 ^ power cs := by
  unfold readScientific? at h
  split at h
  · cases h
  · next hpower =>
    obtain ⟨b, hb, h⟩ := Option.bind_eq_some_iff.mp h
    obtain ⟨⟨negative, e⟩, he, h⟩ := Option.bind_eq_some_iff.mp h
    refine ⟨b, hb, ?_⟩
    rw [shift?_value h, exponent?_eq he, power, hpower, List.tail_cons]

theorem read?_value_iff (h : read? cs = some a) : a.value = denoted cs ↔ Holds (plainValue (base cs)) := by
  rcases Option.or_eq_some_iff.mp h with hexact | ⟨-, hscientific⟩
  · obtain ⟨hv, hmarks⟩ := readExact?_value hexact
    obtain ⟨hbase, hden⟩ := denoted_of_no_mark hmarks
    rw [hden, hbase, ← hv]
    exact iff_of_true rfl ⟨a, rfl⟩
  · obtain ⟨b, hb, hv⟩ := readScientific?_value hscientific
    rw [← readRounded?_value_iff hb, hv, denoted]
    exact mul_left_inj' (zpow_ne_zero _ (by norm_num))

theorem read?_value_of_no_mark (h : read? cs = some a) (hmarks : ∀ c ∈ cs, isExponentMark c = false) :
    a.value = denoted cs := by
  rcases Option.or_eq_some_iff.mp h with hexact | ⟨-, hscientific⟩
  · rw [(readExact?_value hexact).1, (denoted_of_no_mark hmarks).2]
  · rw [readScientific?, List.dropWhile_eq_nil_iff.mpr (by simpa using hmarks)] at hscientific
    cases hscientific

end Texts

end Amount

namespace SentAmount

def numeral : SentAmount → List Char
  | text s => Text.trim s.toList
  | number digits => digits.toList

lemma amount?_eq (sent : SentAmount) : sent.amount? = Amount.read? sent.numeral := by cases sent <;> rfl

open Amount

/-- Nothing has to be left out of the text before its exponent, if it has one. -/
def IsHeld (sent : SentAmount) : Prop :=
  (∀ c ∈ sent.numeral, isExponentMark c = false) ∨ Holds (plainValue (base sent.numeral))

lemma value_amount?_iff {sent : SentAmount} {a : Amount} (h : sent.amount? = some a) :
    a.value = denoted sent.numeral ↔ sent.IsHeld := by
  rw [amount?_eq] at h
  constructor
  · intro hv
    exact .inr ((read?_value_iff h).mp hv)
  · rintro (hmarks | hholds)
    · exact read?_value_of_no_mark h hmarks
    · exact (read?_value_iff h).mpr hholds

/-- The amount of a request is the number that its text denotes just when some amount is the number before the exponent.
A text without an exponent is never rounded, and of two texts that are held, each comes to an amount of its own. -/
theorem decoded_amount_exact_iff (sent : SentAmount) :
    (∀ a, sent.amount? = some a → (a.value = denoted sent.numeral ↔ sent.IsHeld)) ∧
    (sent.IsHeld → ¬ Holds (denoted sent.numeral) → sent.amount? = none) ∧
    ∀ other a b, sent.amount? = some a → SentAmount.amount? other = some b → sent.IsHeld → other.IsHeld →
      denoted sent.numeral ≠ denoted other.numeral → a.value ≠ b.value := by
  refine ⟨fun a h => value_amount?_iff h, ?_, ?_⟩
  · intro hheld hnone
    by_contra hsome
    obtain ⟨a, ha⟩ := Option.ne_none_iff_exists'.mp hsome
    exact hnone ⟨a, (value_amount?_iff ha).mpr hheld⟩
  · intro other a b ha hb hheld hother hne heq
    rw [(value_amount?_iff ha).mpr hheld, (value_amount?_iff hb).mpr hother] at heq
    exact hne heq

theorem decoded_amount_exact_scaled :
    (text " 12_345.50e-2 ").amount? = some ⟨1234550, 4, by decide, by decide⟩ ∧
      (1234550 : Rat) / 10 ^ 4 = denoted (text " 12_345.50e-2 ").numeral := by
  have h : (text " 12_345.50e-2 ").amount? = some ⟨1234550, 4, by decide, by decide⟩ := by decide
  have hheld : (text " 12_345.50e-2 ").IsHeld := .inr ⟨⟨1234550, 2, by decide, by decide⟩, by decide +kernel⟩
  have hexact := ((decoded_amount_exact_iff _).1 _ h).mpr hheld
  exact ⟨h, by simpa [value_eq_div] using hexact⟩

/-- Of the thirty digits before this exponent one is more than an amount holds. With it the same number is refused when
it is written without an exponent, and what it is rounded to is another number's amount. -/
theorem last_digit_lost_before_exponent :
    ∃ a : Amount, (number "1000000000000000000000000000.05e+1").amount? = some a ∧
      a.value ≠ denoted (number "1000000000000000000000000000.05e+1").numeral ∧
      (number "10000000000000000000000000001").amount? = some a ∧
      (number "10000000000000000000000000000.5").amount? = none ∧
      denoted (number "10000000000000000000000000000.5").numeral =
        denoted (number "1000000000000000000000000000.05e+1").numeral :=
  ⟨⟨10 ^ 28 + 1, 0, by decide, by decide⟩, by decide, by decide +kernel, by decide, by decide, by decide +kernel⟩

end SentAmount

end Passbook
