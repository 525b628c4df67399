import Passbook.Proofs.Json.Numbers

/-! Amounts that are sent as they are printed. As a number, or as a text with white space around it, the text of an
amount is read as that amount. -/

namespace Passbook

namespace Text

variable {cs before after : List Char}

lemma trimLeft_of_not_space (hne : cs ≠ []) (hcs : ∀ c ∈ cs, isSpace c = false) (rest : List Char) :
    trimLeft (cs ++ rest) = cs ++ rest := by
  obtain ⟨c, cs, rfl⟩ := List.exists_cons_of_ne_nil hne
  exact trimLeft_cons _ (hcs c List.mem_cons_self)

lemma trim_surrounded (hbefore : before.all isSpace) (hafter : after.all isSpace) (hne : cs ≠ [])
    (hcs : ∀ c ∈ cs, isSpace c = false) : trim (before ++ cs ++ after) = cs := by
  have hreverse : trimLeft (after.reverse ++ cs.reverse) = cs.reverse := by
    have hlast : trimLeft (cs.reverse ++ []) = cs.reverse ++ [] :=
      trimLeft_of_not_space (by simpa using hne) (by simpa using hcs) []
    rw [trimLeft_append (by simpa using hafter)]
    simpa using hlast
  rw [trim, List.append_assoc, trimLeft_append hbefore, trimLeft_of_not_space hne hcs, List.reverse_append, hreverse,
    List.reverse_reverse]

lemma isSpace_of_isDigit {c : Char} (h : c.isDigit) : isSpace c = false := by
  obtain ⟨hge, hle⟩ := bounds_of_isDigit h
  simp only [isSpace]
  generalize c.toNat = n at hge hle
  interval_cases n <;> rfl

end Text

namespace Amount

lemma render_ne_nil (a : Amount) : a.render ≠ [] := by
  rw [render, renderDigits_eq]
  simp [wholeDigits_ne_nil]

lemma isSpace_render (a : Amount) : ∀ c ∈ a.render, Text.isSpace c = false := by
  intro c hc
  rw [render, renderDigits_eq] at hc
  rcases List.mem_append.mp hc with hc | hc
  · split at hc
    · rw [List.mem_singleton.mp hc]
      decide
    · exact absurd hc List.not_mem_nil
  · rcases List.mem_append.mp hc with hc | hc
    · exact Text.isSpace_of_isDigit (isDigit_wholeDigits _ _ c hc)
    · split at hc
      · exact absurd hc List.not_mem_nil
      · rcases List.mem_cons.mp hc with rfl | hc
        · decide
        · exact Text.isSpace_of_isDigit (isDigit_fractionDigits _ _ c hc)

end Amount

namespace SentAmount

open Json

/-- The ways to send an amount as it is printed: as a number, or as a text with white space around it. -/
inductive Shows (a : Amount) : SentAmount → Prop
  | number : Shows a (number a.text)
  | text {before after : List Char} : before.all Text.isSpace → after.all Text.isSpace →
      Shows a (text (String.ofList (before ++ a.render ++ after)))

def token : SentAmount → Token
  | text s => .text (some s)
  | number digits => .number digits

def json : SentAmount → String
  | text s => renderText s
  | number digits => digits

variable {sent : SentAmount} {a : Amount}

lemma Shows.amount?_eq (h : Shows a sent) : sent.amount? = some a := by
  have hread : Amount.read? a.render = some a := by rw [Amount.read?, Amount.readExact?_render, Option.some_or]
  rw [SentAmount.amount?_eq]
  cases h with
  | number =>
    rw [numeral, Amount.text, String.toList_ofList]
    exact hread
  | text hbefore hafter =>
    rw [numeral, String.toList_ofList, Text.trim_surrounded hbefore hafter a.render_ne_nil a.isSpace_render]
    exact hread

lemma decode_token (sent : SentAmount) (room : Nat) (ts : List Token) :
    decode room (sent.token :: ts) = .ok (sent, ts) := by
  cases sent <;> rfl

lemma decodeAll_of_tokens_eq (sent : SentAmount) {bytes : List UInt8} (h : tokens bytes = [sent.token]) :
    decodeAll decode bytes = .ok sent := by
  rw [decodeAll, h, decode_token]

end SentAmount

end Passbook
