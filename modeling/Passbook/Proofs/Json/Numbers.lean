import Passbook.Proofs.Amount.Printing
import Passbook.Proofs.Json.Rendering

/-! Amounts as JSON numbers. The text of an amount is a number of JSON, of which no character is changed, and a number
ends where a comma or a bracket follows. -/

namespace Passbook

namespace Json

open Lexer

namespace NumberStage

def Takes (stage : NumberStage) (cs : List Char) (stage' : NumberStage) : Prop :=
  ∀ tokens written, (cs.flatMap String.utf8EncodeChar).foldl step ⟨tokens, .number stage written⟩ =
    ⟨tokens, .number stage' (cs.reverse ++ written)⟩

namespace Takes

variable {stage stage' stage'' : NumberStage} {c : Char} {cs ds : List Char}

lemma nil : Takes stage [] stage := fun _ _ => rfl

lemma append (h : Takes stage cs stage') (h' : Takes stage' ds stage'') : Takes stage (cs ++ ds) stage'' := by
  intro tokens written
  rw [List.flatMap_append, List.foldl_append, h, h', List.reverse_append, List.append_assoc]

lemma cons (hc : c.toNat ≤ 127) (hnext : next? c stage = some (stage', [c])) (h : Takes stage' cs stage'') :
    Takes stage (c :: cs) stage'' := by
  have hchar : Char.ofNat (UInt8.ofNat c.toNat).toNat = c := by
    rw [UInt8.toNat_ofNat', Nat.mod_eq_of_lt (by omega), Char.ofNat_toNat]
  have hone : Takes stage [c] stage' := by
    intro tokens written
    rw [List.flatMap_singleton, Utf8.utf8EncodeChar_of_le hc, List.foldl_cons, List.foldl_nil]
    simp only [step, insideNumber, hchar, hnext]
  exact hone.append h

lemma toNat_le_of_isDigit (h : c.isDigit) : c.toNat ≤ 127 := (Text.bounds_of_isDigit h).2.trans (by decide)

lemma digits (hstage : stage = .whole ∨ stage = .fraction) (h : ∀ c ∈ cs, c.isDigit) : Takes stage cs stage := by
  induction cs with
  | nil => exact nil
  | cons c cs ih =>
    obtain ⟨hc, hcs⟩ := List.forall_mem_cons.mp h
    refine cons (toNat_le_of_isDigit hc) ?_ (ih hcs)
    rcases hstage with rfl | rfl <;> exact if_pos hc

lemma foldl_step_of_isDigit (tokens : List Token) (hc : c.isDigit) (cs : List Char) :
    ((c :: cs).flatMap String.utf8EncodeChar).foldl step ⟨tokens, .between⟩ =
      ((c :: cs).flatMap String.utf8EncodeChar).foldl step ⟨tokens, .number .minus []⟩ := by
  obtain ⟨hge, hle⟩ := Text.bounds_of_isDigit hc
  have hstep : ∀ n, 48 ≤ n → n ≤ 57 →
      step ⟨tokens, .between⟩ (UInt8.ofNat n) = step ⟨tokens, .number .minus []⟩ (UInt8.ofNat n) := by
    intro n hge hle
    interval_cases n <;> rfl
  rw [List.flatMap_cons, Utf8.utf8EncodeChar_of_le (toNat_le_of_isDigit hc), List.singleton_append, List.foldl_cons,
    List.foldl_cons, hstep _ hge hle]

end Takes

end NumberStage

def IsNumber (s : String) : Prop :=
  ∃ stage : NumberStage, (stage = .zero ∨ stage = .whole ∨ stage = .fraction) ∧
    ∀ before, (Utf8.encode s).foldl step ⟨before, .between⟩ = ⟨before, .number stage s.toList.reverse⟩

namespace IsNumber

variable {s : String} {ys : List Token}

lemma tokens_eq (h : IsNumber s) : tokens (Utf8.encode s) = [.number s] := by
  obtain ⟨stage, hstage, h⟩ := h
  rw [tokens, h]
  rcases hstage with rfl | rfl | rfl <;> simp [finish, emit, NumberStage.isComplete]

lemma lexes_append (h : IsNumber s) {mark t : String} (hmark : mark = "," ∨ mark = "\x7d") (ht : Lexes (mark ++ t) ys) :
    Lexes (s ++ (mark ++ t)) (.number s :: ys) := by
  intro before
  obtain ⟨stage, hstage, h⟩ := h
  have hend : ∀ written, (Utf8.encode mark).foldl step ⟨before, .number stage written⟩ =
      (Utf8.encode mark).foldl step ⟨.number (String.ofList written.reverse) :: before, .between⟩ := by
    intro written
    rcases hmark with rfl | rfl <;> rcases hstage with rfl | rfl | rfl <;> rfl
  have hrest := ht (.number s :: before)
  rw [Utf8.encode_append, List.foldl_append] at hrest
  rw [Utf8.encode_append, List.foldl_append, h, Utf8.encode_append, List.foldl_append, hend, List.reverse_reverse,
    String.ofList_toList, hrest, List.reverse_cons, List.append_assoc, List.singleton_append]

end IsNumber

lemma lexes_renderObject_number {digits value : String} {name other : String} {ys : List Token} (h : IsNumber digits)
    (hvalue : Lexes value ys) :
    Lexes (renderObject [(name, digits), (other, value)]) (objectTokens [(name, [.number digits]), (other, ys)]) := by
  have hopen : Lexes "\x7b" [.openObject] := fun _ => rfl
  have hcolon : Lexes ":" [.colon] := fun _ => rfl
  have hcomma : Lexes "," [.comma] := fun _ => rfl
  have hclose : Lexes "\x7d" [.closeObject] := fun _ => rfl
  have hfirst : Lexes ("\x7b" ++ (renderText name ++ ":")) [.openObject, .text (some name), .colon] :=
    hopen.append ((lexes_renderText name).append hcolon)
  have hrest : Lexes ("," ++ (renderText other ++ (":" ++ (value ++ "\x7d"))))
      (.comma :: .text (some other) :: .colon :: (ys ++ [.closeObject])) :=
    hcomma.append ((lexes_renderText other).append (hcolon.append (hvalue.append hclose)))
  have htext : renderObject [(name, digits), (other, value)] = "\x7b" ++ (renderText name ++ ":") ++
      (digits ++ ("," ++ (renderText other ++ (":" ++ (value ++ "\x7d"))))) := by
    simp only [renderObject, List.map_cons, List.map_nil, String.intercalate_cons_cons, String.intercalate_singleton,
      String.append_assoc]
  rw [htext]
  simpa [objectTokens, List.intercalate_cons_cons] using hfirst.append (h.lexes_append (.inl rfl) hrest)

end Json

namespace Amount

open Json NumberStage

variable (m s : Nat)

lemma takes_wholeDigits :
    ∃ stage, (stage = .zero ∨ stage = .whole) ∧ Takes .minus (wholeDigits m s) stage := by
  obtain ⟨c, cs, hcs⟩ := List.exists_cons_of_ne_nil (wholeDigits_ne_nil m s)
  have hdigits := isDigit_wholeDigits m s
  have hhead := wholeDigits_head m s
  rw [hcs] at hdigits hhead ⊢
  obtain ⟨hc, hrest⟩ := List.forall_mem_cons.mp hdigits
  rcases hhead with h | h
  · rw [h]
    exact ⟨.zero, .inl rfl, .cons (by decide) rfl .nil⟩
  · have hne : c ≠ '0' := by simpa using h
    refine ⟨.whole, .inr rfl, .cons (Takes.toNat_le_of_isDigit hc) ?_ (.digits (.inl rfl) hrest)⟩
    simp [next?, hne, hc]

lemma takes_fractionDigits (hs : s ≠ 0) : Takes .point (fractionDigits m s) .fraction := by
  have hlength := length_fractionDigits m s
  have hdigits := isDigit_fractionDigits m s
  obtain ⟨c, cs, hcs⟩ := List.exists_cons_of_length_pos (l := fractionDigits m s) (by omega)
  rw [hcs] at hdigits ⊢
  obtain ⟨hc, hrest⟩ := List.forall_mem_cons.mp hdigits
  exact .cons (Takes.toNat_le_of_isDigit hc) (if_pos hc) (.digits (.inr rfl) hrest)

lemma takes_renderDigits :
    ∃ stage, (stage = .zero ∨ stage = .whole ∨ stage = .fraction) ∧ Takes .minus (renderDigits m s) stage := by
  obtain ⟨stage, hstage, hwhole⟩ := takes_wholeDigits m s
  rw [renderDigits_eq]
  by_cases hs : s = 0
  · rw [if_pos hs, List.append_nil]
    exact ⟨stage, hstage.imp_right .inl, hwhole⟩
  · rw [if_neg hs]
    refine ⟨.fraction, .inr (.inr rfl), hwhole.append (.cons (by decide) ?_ (takes_fractionDigits m s hs))⟩
    rcases hstage with rfl | rfl <;> rfl

theorem isNumber_text (a : Amount) : IsNumber a.text := by
  obtain ⟨stage, hstage, htakes⟩ := takes_renderDigits a.coefficient.natAbs a.scale
  refine ⟨stage, hstage, fun before => ?_⟩
  rw [Utf8.encode_eq, text, String.toList_ofList, render]
  by_cases hneg : a.coefficient < 0
  · rw [if_pos hneg, List.singleton_append, List.flatMap_cons]
    exact (htakes before ['-']).trans (by rw [List.reverse_cons])
  · obtain ⟨c, cs, hcs⟩ := List.exists_cons_of_ne_nil (wholeDigits_ne_nil a.coefficient.natAbs a.scale)
    have hc : c.isDigit := isDigit_wholeDigits a.coefficient.natAbs a.scale c (by simp [hcs])
    rw [if_neg hneg, List.nil_append]
    rw [renderDigits_eq, hcs, List.cons_append] at htakes ⊢
    rw [Takes.foldl_step_of_isDigit before hc, htakes before [], List.append_nil]

end Amount

end Passbook
