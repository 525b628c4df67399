import Mathlib.Data.List.Forall2
import Mathlib.Tactic.IntervalCases
import Passbook.Json.Decoder
import Passbook.Wire.Response

/-! JSON texts that are written are read again as what they were written for. A text is cut into its tokens from where
one token ends to where another does, so the tokens of a text are those of its parts. -/

namespace Passbook

namespace Utf8

lemma encode_eq (s : String) : encode s = s.toList.flatMap String.utf8EncodeChar := by
  have h : s.toUTF8 = s.toList.utf8Encode := by
    rw [String.toUTF8_eq_toByteArray, ← String.toByteArray_ofList, String.ofList_toList]
  rw [encode, h]
  simp [List.utf8Encode]

lemma encode_append (s t : String) : encode (s ++ t) = encode s ++ encode t := by
  simp [encode_eq, String.toList_append]

lemma utf8EncodeChar_of_le {c : Char} (h : c.toNat ≤ 127) : String.utf8EncodeChar c = [UInt8.ofNat c.toNat] := by
  rw [String.utf8EncodeChar]
  exact if_pos h

lemma le_of_mem_utf8EncodeChar {c : Char} (h : 127 < c.toNat) : ∀ b ∈ String.utf8EncodeChar c, 128 ≤ b.toNat := by
  have hv : ¬ c.val.toNat ≤ 127 := Nat.not_le.mpr h
  simp only [String.utf8EncodeChar, hv, if_false]
  split
  · simp only [List.mem_cons, List.not_mem_nil, or_false, forall_eq_or_imp, forall_eq, UInt8.toNat_ofNat']
    omega
  · split
    · simp only [List.mem_cons, List.not_mem_nil, or_false, forall_eq_or_imp, forall_eq, UInt8.toNat_ofNat']
      omega
    · simp only [List.mem_cons, List.not_mem_nil, or_false, forall_eq_or_imp, forall_eq, UInt8.toNat_ofNat']
      omega

end Utf8

namespace Json

open Lexer

section Texts

variable {ts : List Token} {acc : List UInt8}

def IsPlain (b : UInt8) : Prop := Char.ofNat b.toNat ≠ '"' ∧ Char.ofNat b.toNat ≠ '\\' ∧ ¬ b < 0x20

lemma foldl_step_plain {bs : List UInt8} (h : ∀ b ∈ bs, IsPlain b) :
    bs.foldl step ⟨ts, .text .none { bytes := acc }⟩ = ⟨ts, .text .none { bytes := bs.reverse ++ acc }⟩ := by
  induction bs generalizing acc with
  | nil => rfl
  | cons b bs ih =>
    obtain ⟨⟨hquote, hslash, hlow⟩, hbs⟩ := List.forall_mem_cons.mp h
    have hstep : step ⟨ts, .text .none { bytes := acc }⟩ b = ⟨ts, .text .none { bytes := b :: acc }⟩ := by
      simp [step, insideText, hquote, hslash, hlow, Draft.push]
    rw [List.foldl_cons, hstep, ih hbs, List.reverse_cons, List.append_assoc, List.singleton_append]

lemma foldl_step_control (ts : List Token) (acc : List UInt8) {n : Nat} (h : n < 0x20) :
    ((escapedChar (Char.ofNat n)).flatMap String.utf8EncodeChar).foldl step ⟨ts, .text .none { bytes := acc }⟩ =
      ⟨ts, .text .none { bytes := (String.utf8EncodeChar (Char.ofNat n)).reverse ++ acc }⟩ := by
  interval_cases n <;> rfl

lemma isPlain_of_mem {c : Char} (hquote : c ≠ '"') (hslash : c ≠ '\\') (hlow : ¬ c.toNat < 0x20) :
    ∀ b ∈ String.utf8EncodeChar c, IsPlain b := by
  intro b hb
  by_cases hc : c.toNat ≤ 127
  · rw [Utf8.utf8EncodeChar_of_le hc, List.mem_singleton] at hb
    have hbn : b.toNat = c.toNat := by
      rw [hb, UInt8.toNat_ofNat']
      omega
    refine ⟨?_, ?_, ?_⟩
    · rwa [hbn, Char.ofNat_toNat]
    · rwa [hbn, Char.ofNat_toNat]
    · rw [UInt8.lt_iff_toNat_lt, hbn]
      exact hlow
  · have hbn := Utf8.le_of_mem_utf8EncodeChar (Nat.lt_of_not_le hc) b hb
    have hne : ∀ x : Char, x.toNat < 128 → Char.ofNat b.toNat ≠ x := by
      rintro x hx rfl
      rw [Char.ofNat, dif_pos (.inl (by have := UInt8.toNat_lt b; omega))] at hx
      exact absurd hx (Nat.not_lt.mpr hbn)
    refine ⟨hne _ (by decide), hne _ (by decide), ?_⟩
    rw [UInt8.lt_iff_toNat_lt]
    have hspace : (0x20 : UInt8).toNat = 0x20 := rfl
    omega

lemma foldl_step_escapedChar (c : Char) :
    ((escapedChar c).flatMap String.utf8EncodeChar).foldl step ⟨ts, .text .none { bytes := acc }⟩ =
      ⟨ts, .text .none { bytes := (String.utf8EncodeChar c).reverse ++ acc }⟩ := by
  by_cases hlow : c.toNat < 0x20
  · have hcontrol := foldl_step_control ts acc hlow
    rwa [Char.ofNat_toNat] at hcontrol
  · by_cases hquote : c = '"'
    · subst hquote
      rfl
    · by_cases hslash : c = '\\'
      · subst hslash
        rfl
      · have hplain : escapedChar c = [c] := by
          have hne : ∀ x : Char, x.toNat < 0x20 → c ≠ x := by
            rintro x hx rfl
            exact hlow hx
          simp only [escapedChar, hquote, hslash, hlow, if_false, hne '\x08' (by decide), hne '\x0c' (by decide),
            hne '\n' (by decide), hne '\r' (by decide), hne '\t' (by decide)]
        rw [hplain, List.flatMap_singleton]
        exact foldl_step_plain (isPlain_of_mem hquote hslash hlow)

lemma foldl_step_content (cs : List Char) :
    ((cs.flatMap escapedChar).flatMap String.utf8EncodeChar).foldl step ⟨ts, .text .none { bytes := acc }⟩ =
      ⟨ts, .text .none { bytes := (cs.flatMap String.utf8EncodeChar).reverse ++ acc }⟩ := by
  induction cs generalizing acc with
  | nil => rfl
  | cons c cs ih =>
    rw [List.flatMap_cons, List.flatMap_append, List.foldl_append, foldl_step_escapedChar, ih, List.flatMap_cons,
      List.reverse_append, List.append_assoc]

end Texts

/-- A text that is cut into the tokens wherever a token can begin. -/
def Lexes (s : String) (tokens : List Token) : Prop :=
  ∀ before, (Utf8.encode s).foldl step ⟨before, .between⟩ = ⟨tokens.reverse ++ before, .between⟩

namespace Lexes

variable {s t : String} {xs ys : List Token}

lemma append (hs : Lexes s xs) (ht : Lexes t ys) : Lexes (s ++ t) (xs ++ ys) := by
  intro before
  rw [Utf8.encode_append, List.foldl_append, hs, ht, List.reverse_append, List.append_assoc]

lemma tokens_eq (h : Lexes s xs) : tokens (Utf8.encode s) = xs := by
  rw [tokens, h]
  simp [finish]

end Lexes

def ReadsBack {α : Type} (decode : Decoder α) (room : Nat) (a : α) (xs : List Token) : Prop :=
  ∀ ts, decode room (xs ++ ts) = .ok (a, ts)

lemma ReadsBack.decodeAll_eq {α : Type} {decode : Decoder α} {a : α} {s : String} {xs : List Token}
    (h : ReadsBack decode maxNesting a xs) (hs : Lexes s xs) : decodeAll decode (Utf8.encode s) = .ok a := by
  have hread := h []
  rw [List.append_nil] at hread
  rw [decodeAll, hs.tokens_eq, hread]

lemma lexes_renderText (s : String) : Lexes (renderText s) [.text (some s)] := by
  intro before
  have hbytes : Utf8.encode (renderText s) =
      0x22 :: ((s.toList.flatMap escapedChar).flatMap String.utf8EncodeChar ++ [0x22]) := by
    rw [Utf8.encode_eq, renderText, String.toList_ofList, List.cons_append, List.flatMap_cons, List.flatMap_append]
    rfl
  have hopen : step ⟨before, .between⟩ 0x22 = ⟨before, .text .none {}⟩ := rfl
  have hcontent : Draft.content? { bytes := (Utf8.encode s).reverse } = some s := by
    simp [Draft.content?, Utf8.decode?_encode]
  rw [hbytes, List.foldl_cons, hopen, List.foldl_append, foldl_step_content, ← Utf8.encode_eq, List.append_nil]
  simp only [List.foldl_cons, List.foldl_nil, step, insideText]
  rw [← hcontent]
  rfl

lemma lexes_intercalate {ss : List String} {xss : List (List Token)} (h : List.Forall₂ Lexes ss xss) :
    Lexes (",".intercalate ss) ([Token.comma].intercalate xss) := by
  have hcomma : Lexes "," [.comma] := fun _ => rfl
  induction h with
  | nil => exact fun _ => rfl
  | @cons s xs ss xss hs hss ih =>
    cases hss with
    | nil => simpa using hs
    | cons ht _ =>
      rw [String.intercalate_cons_cons, List.intercalate_cons_cons]
      exact (hs.append hcomma).append ih

def objectTokens (members : List (String × List Token)) : List Token :=
  [.openObject] ++ [Token.comma].intercalate (members.map fun m => [.text (some m.1)] ++ [.colon] ++ m.2) ++
    [.closeObject]

lemma lexes_renderObject {members : List (String × String)} {written : List (String × List Token)}
    (h : List.Forall₂ (fun m w => m.1 = w.1 ∧ Lexes m.2 w.2) members written) :
    Lexes (renderObject members) (objectTokens written) := by
  have hopen : Lexes "\x7b" [.openObject] := fun _ => rfl
  have hcolon : Lexes ":" [.colon] := fun _ => rfl
  have hclose : Lexes "\x7d" [.closeObject] := fun _ => rfl
  have hmembers : List.Forall₂ Lexes (members.map fun m => renderText m.1 ++ ":" ++ m.2)
      (written.map fun m => [.text (some m.1)] ++ [.colon] ++ m.2) := by
    rw [List.forall₂_map_left_iff, List.forall₂_map_right_iff]
    refine h.imp ?_
    rintro m w ⟨hkey, hvalue⟩
    rw [← hkey]
    exact ((lexes_renderText m.1).append hcolon).append hvalue
  exact (hopen.append (lexes_intercalate hmembers)).append hclose

end Json

namespace ErrorResponse

def tokens (r : ErrorResponse) : List Json.Token :=
  Json.objectTokens [("error", [.text (some r.error)]), ("code", [.text (some r.code)])]

lemma lexes_json (r : ErrorResponse) : Json.Lexes r.json r.tokens :=
  Json.lexes_renderObject (.cons ⟨rfl, Json.lexes_renderText _⟩ (.cons ⟨rfl, Json.lexes_renderText _⟩ .nil))

theorem value_json (r : ErrorResponse) : Json.decodeAll Json.value (Utf8.encode r.json) =
    .ok (.object [("code", .text r.code), ("error", .text r.error)]) := by
  have hread : Json.value Json.maxNesting r.tokens =
      .ok (.object (Json.insertMember "code" (.text r.code) [("error", .text r.error)]), []) := rfl
  have hsorted : Json.insertMember "code" (.text r.code) [("error", .text r.error)] =
      [("code", .text r.code), ("error", .text r.error)] := by
    rw [Json.insertMember, if_pos (by decide)]
  rw [Json.decodeAll, r.lexes_json.tokens_eq, hread, hsorted]

end ErrorResponse

end Passbook
