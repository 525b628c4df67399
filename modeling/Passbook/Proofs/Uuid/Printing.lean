import Mathlib.Tactic.IntervalCases
import Passbook.Uuid.Reader

/-! Printed identifiers. What is printed of an identifier is read as that identifier: its hyphens are where they have to
be, and between them are the digits of its bytes. -/

namespace Passbook.Uuid

section Digits

lemma hexDigit?_digitChar {d : Nat} (h : d < 16) : Text.hexDigit? d.digitChar = some d := by
  interval_cases d <;> rfl

lemma utf8Size_digitChar {d : Nat} (h : d < 16) : d.digitChar.utf8Size = 1 := by
  interval_cases d <;> rfl

lemma digitChar_ne_hyphen {d : Nat} (h : d < 16) : d.digitChar ≠ '-' := by
  interval_cases d <;> decide

lemma hexPair_eq (b : UInt8) : hexPair b = [(b.toNat / 16).digitChar, (b.toNat % 16).digitChar] := by
  have hlt := b.toNat_lt
  by_cases h : b.toNat < 16
  · rw [hexPair, Text.hexadecimal, Nat.toDigits_of_lt_base h, Nat.div_eq_of_lt h, Nat.mod_eq_of_lt h]
    rfl
  · rw [hexPair, Text.hexadecimal, Nat.toDigits_of_base_le (by decide) (Nat.le_of_not_lt h),
      Nat.toDigits_of_lt_base (by omega)]
    rfl

end Digits

def hex (bytes : List UInt8) : List Char := bytes.flatMap hexPair

def digitsOf (bytes : List UInt8) : List Nat := bytes.flatMap fun b => [b.toNat / 16, b.toNat % 16]

section Hex

variable (bytes : List UInt8) (b : UInt8)

lemma hex_cons : hex (b :: bytes) = (b.toNat / 16).digitChar :: (b.toNat % 16).digitChar :: hex bytes := by
  rw [hex, List.flatMap_cons, hexPair_eq]
  rfl

lemma length_hex : (hex bytes).length = 2 * bytes.length := by
  induction bytes with
  | nil => rfl
  | cons b bytes ih =>
    rw [hex_cons, List.length_cons, List.length_cons, ih, List.length_cons]
    omega

lemma div_lt : b.toNat / 16 < 16 := by
  have hlt := b.toNat_lt
  omega

lemma exists_digit_of_mem_hex {bytes : List UInt8} {c : Char} (h : c ∈ hex bytes) : ∃ d < 16, c = d.digitChar := by
  obtain ⟨b, -, hc⟩ := List.mem_flatMap.mp h
  rw [hexPair_eq, List.mem_cons, List.mem_singleton] at hc
  rcases hc with rfl | rfl
  · exact ⟨_, div_lt b, rfl⟩
  · exact ⟨_, Nat.mod_lt _ (by decide), rfl⟩

lemma filterMap_hex : (hex bytes).filterMap Text.hexDigit? = digitsOf bytes := by
  induction bytes with
  | nil => rfl
  | cons b bytes ih =>
    rw [hex_cons, List.filterMap_cons_some (hexDigit?_digitChar (div_lt b)),
      List.filterMap_cons_some (hexDigit?_digitChar (Nat.mod_lt _ (by decide))), ih]
    rfl

lemma bytesOfDigits_digitsOf : bytesOfDigits (digitsOf bytes) = bytes := by
  induction bytes with
  | nil => rfl
  | cons b bytes ih =>
    have hb : UInt8.ofNat (16 * (b.toNat / 16) + b.toNat % 16) = b := by
      rw [Nat.div_add_mod, UInt8.ofNat_toNat]
    have hcons : digitsOf (b :: bytes) = b.toNat / 16 :: b.toNat % 16 :: digitsOf bytes := rfl
    rw [hcons, bytesOfDigits, hb, ih]

end Hex

section Groups

variable (n : Nat) (ns : List Nat) (bytes : List UInt8)

lemma renderGroups_cons (m : Nat) :
    renderGroups (n :: m :: ns) bytes = hex (bytes.take n) ++ '-' :: renderGroups (m :: ns) (bytes.drop n) := rfl

lemma length_renderGroups : (renderGroups (n :: ns) bytes).length = 2 * bytes.length + ns.length := by
  induction ns generalizing n bytes with
  | nil => exact length_hex bytes
  | cons m ns ih =>
    have hsplit := congrArg List.length (List.take_append_drop n bytes)
    rw [List.length_append] at hsplit
    rw [renderGroups_cons, List.length_append, length_hex, List.length_cons, ih, List.length_cons]
    omega

lemma mem_renderGroups {c : Char} (h : c ∈ renderGroups (n :: ns) bytes) : c = '-' ∨ ∃ d < 16, c = d.digitChar := by
  induction ns generalizing n bytes with
  | nil => exact .inr (exists_digit_of_mem_hex h)
  | cons m ns ih =>
    rw [renderGroups_cons, List.mem_append, List.mem_cons] at h
    rcases h with h | h | h
    · exact .inr (exists_digit_of_mem_hex h)
    · exact .inl h
    · exact ih _ _ h

lemma filterMap_renderGroups : (renderGroups (n :: ns) bytes).filterMap Text.hexDigit? = digitsOf bytes := by
  induction ns generalizing n bytes with
  | nil => exact filterMap_hex bytes
  | cons m ns ih =>
    rw [renderGroups_cons, List.filterMap_append, filterMap_hex, List.filterMap_cons_none (a := '-') rfl, ih, digitsOf,
      digitsOf, ← List.flatMap_append, List.take_append_drop, digitsOf]

def hyphenPlaces : Nat → List Nat → List Nat
  | k, n :: m :: ns => (k + 2 * n) :: hyphenPlaces (k + 2 * n + 1) (m :: ns)
  | _, _ => []

def hyphensFrom (k : Nat) (cs : List Char) : List Nat :=
  (cs.zipIdx k).filterMap fun p => if p.1 == '-' then some p.2 else none

lemma hyphensFrom_append (k : Nat) (cs ds : List Char) :
    hyphensFrom k (cs ++ ds) = hyphensFrom k cs ++ hyphensFrom (k + cs.length) ds := by
  rw [hyphensFrom, List.zipIdx_append, List.filterMap_append]
  rfl

lemma hyphensFrom_hyphen (k : Nat) (cs : List Char) : hyphensFrom k ('-' :: cs) = k :: hyphensFrom (k + 1) cs := rfl

lemma hyphensFrom_hex (k : Nat) : hyphensFrom k (hex bytes) = [] := by
  rw [hyphensFrom, List.filterMap_eq_nil_iff]
  rintro ⟨c, i⟩ hc
  obtain ⟨d, hd, rfl⟩ := exists_digit_of_mem_hex (List.fst_mem_of_mem_zipIdx hc)
  simp [digitChar_ne_hyphen hd]

lemma hyphensFrom_renderGroups (k : Nat) (h : (n :: ns).sum ≤ bytes.length) :
    hyphensFrom k (renderGroups (n :: ns) bytes) = hyphenPlaces k (n :: ns) := by
  induction ns generalizing n bytes k with
  | nil => exact hyphensFrom_hex bytes k
  | cons m ns ih =>
    rw [List.sum_cons] at h
    have hlength : (hex (bytes.take n)).length = 2 * n := by
      rw [length_hex, List.length_take]
      omega
    have hrest : (m :: ns).sum ≤ (bytes.drop n).length := by
      rw [List.length_drop]
      omega
    rw [renderGroups_cons, hyphensFrom_append, hyphensFrom_hex, hlength, hyphensFrom_hyphen, ih _ _ _ hrest,
      hyphenPlaces, List.nil_append]

end Groups

section Render

variable (x : Uuid)

lemma mem_render {c : Char} (h : c ∈ x.render) : c = '-' ∨ ∃ d < 16, c = d.digitChar := mem_renderGroups _ _ _ h

lemma size_render : Utf8.size x.render = 36 := by
  have hsize : ∀ cs : List Char, (∀ c ∈ cs, c.utf8Size = 1) → Utf8.size cs = cs.length := by
    intro cs h
    induction cs with
    | nil => rfl
    | cons c cs ih =>
      obtain ⟨hc, hcs⟩ := List.forall_mem_cons.mp h
      have hcons : Utf8.size (c :: cs) = c.utf8Size + Utf8.size cs := rfl
      rw [hcons, hc, ih hcs, List.length_cons, Nat.add_comm]
  rw [hsize, render, groups, length_renderGroups, x.length_bytes]
  · rfl
  · intro c hc
    rcases x.mem_render hc with rfl | ⟨d, hd, rfl⟩
    · rfl
    · exact utf8Size_digitChar hd

lemma intruder?_eq_none (k : Nat) {cs : List Char} (h : ∀ c ∈ cs, c = '-' ∨ ∃ d < 16, c = d.digitChar) :
    intruder? k cs = none := by
  induction cs generalizing k with
  | nil => rfl
  | cons c cs ih =>
    obtain ⟨hc, hcs⟩ := List.forall_mem_cons.mp h
    have hfine : (c == '-' || (Text.hexDigit? c).isSome) = true := by
      rcases hc with rfl | ⟨d, hd, rfl⟩
      · rfl
      · simp [hexDigit?_digitChar hd]
    rw [intruder?, if_pos hfine, ih _ hcs]

lemma hyphens_render : hyphens x.render = [8, 13, 18, 23] :=
  hyphensFrom_renderGroups 4 [2, 2, 2, 6] x.bytes 0 (by rw [x.length_bytes]; decide)

lemma ofDigits?_render : ofDigits? x.render = some x := by
  rw [ofDigits?, render, groups, filterMap_renderGroups, bytesOfDigits_digitsOf, ofBytes?_bytes]

theorem read_render : read x.render = .ok x := by
  have hsize := x.size_render
  have hunwrap : unwrap x.render = x.render := by simp [unwrap, hsize]
  have hstyle : style x.render = ⟨0, x.render, false⟩ := by simp [style, hsize]
  have hplaces : misplaced? [8, 13, 18, 23] = none := rfl
  have hintruder : intruder? 0 x.render = none := intruder?_eq_none 0 fun _ => x.mem_render
  simp [read, hsize, hunwrap, hstyle, hintruder, x.hyphens_render, hplaces, x.ofDigits?_render]

end Render

end Passbook.Uuid
