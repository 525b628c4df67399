import Passbook.Proofs.Json.Rendering

/-! Arrays of any length. An array whose items are written so that a decoder reads them back is read back as a list. -/

namespace Passbook.Json

variable {α : Type} {decode : Decoder α} {room : Nat}

def elements (decode : Decoder α) (room : Nat) : Nat → Nat → List Token → Reading (List α)
  | 0, _, _ => .error .malformed
  | fuel + 1, index, ts =>
    match (decode room ts).mapError (Fault.within (.index index)) with
    | .ok (a, .comma :: ts) => (elements decode room fuel (index + 1) ts).map fun r => (a :: r.1, r.2)
    | .ok (a, .closeArray :: ts) => .ok ([a], ts)
    | .ok _ => .error .malformed
    | .error fault => .error fault

def sequence (decode : Decoder α) : Decoder (List α)
  | _ + 1, .openArray :: .closeArray :: ts => .ok ([], ts)
  | room + 1, .openArray :: ts => elements decode room ts.length 0 ts
  | 0, .openArray :: _ => .error .malformed
  | _, t :: _ => mismatch "a sequence" t
  | _, [] => .error .malformed

def arrayTokens (items : List (List Token)) : List Token :=
  [.openArray] ++ [Token.comma].intercalate items ++ [.closeArray]

lemma lexes_renderArray {items : List String} {written : List (List Token)} (h : List.Forall₂ Lexes items written) :
    Lexes (renderArray items) (arrayTokens written) := by
  have hopen : Lexes "[" [.openArray] := fun _ => rfl
  have hclose : Lexes "]" [.closeArray] := fun _ => rfl
  exact (hopen.append (lexes_intercalate h)).append hclose

lemma elements_of_readsBack {a : α} {as : List α} {xs : List Token} {xss : List (List Token)}
    (h : List.Forall₂ (ReadsBack decode room) (a :: as) (xs :: xss)) {fuel : Nat} (hfuel : as.length < fuel)
    (index : Nat) (ts : List Token) :
    elements decode room fuel index ([Token.comma].intercalate (xs :: xss) ++ .closeArray :: ts) =
      .ok (a :: as, ts) := by
  induction as generalizing a xs xss fuel index with
  | nil =>
    obtain ⟨fuel, rfl⟩ := Nat.exists_eq_succ_of_ne_zero (Nat.ne_of_gt hfuel)
    obtain ⟨hread, hrest⟩ := List.forall₂_cons.mp h
    cases hrest
    have hitem := hread (.closeArray :: ts)
    simp [elements, hitem, Except.mapError]
  | cons b as ih =>
    obtain ⟨fuel, rfl⟩ := Nat.exists_eq_succ_of_ne_zero (Nat.ne_zero_of_lt hfuel)
    obtain ⟨hread, hrest⟩ := List.forall₂_cons.mp h
    cases xss with
    | nil => cases hrest
    | cons ys xss =>
      have hitem := hread (.comma :: ([Token.comma].intercalate (ys :: xss) ++ .closeArray :: ts))
      have hmore := ih hrest (Nat.lt_of_succ_lt_succ hfuel) (index + 1)
      rw [List.intercalate_cons_cons, List.append_assoc, List.append_assoc, List.singleton_append]
      simp [elements, hitem, Except.mapError, hmore, Except.map]

lemma length_le_intercalate (items : List (List Token)) :
    items.length ≤ ([Token.comma].intercalate items).length + 1 := by
  induction items with
  | nil => exact Nat.zero_le _
  | cons xs items ih =>
    cases items with
    | nil => simp
    | cons ys items =>
      rw [List.intercalate_cons_cons]
      simp only [List.length_cons, List.length_append] at ih ⊢
      omega

theorem sequence_of_readsBack {as : List α} {xss : List (List Token)}
    (h : List.Forall₂ (ReadsBack decode room) as xss) (hopen : ∀ xs ∈ xss, ∃ rest, xs = .openObject :: rest) :
    ReadsBack (sequence decode) (room + 1) as (arrayTokens xss) := by
  intro ts
  cases h with
  | nil => rfl
  | @cons a xs as xss hread hrest =>
    have hlength : as.length = xss.length := hrest.length_eq
    have hfuel : as.length < ([Token.comma].intercalate (xs :: xss) ++ .closeArray :: ts).length := by
      have hle := length_le_intercalate (xs :: xss)
      simp only [List.length_append, List.length_cons] at hle ⊢
      omega
    have hall := elements_of_readsBack (.cons hread hrest) hfuel 0 ts
    have htokens : arrayTokens (xs :: xss) ++ ts =
        .openArray :: ([Token.comma].intercalate (xs :: xss) ++ .closeArray :: ts) := by
      simp [arrayTokens]
    obtain ⟨rest, hfirst⟩ : ∃ rest, [Token.comma].intercalate (xs :: xss) ++ .closeArray :: ts =
        .openObject :: rest := by
      obtain ⟨rest, rfl⟩ := hopen xs List.mem_cons_self
      cases xss with
      | nil => exact ⟨_, by rw [List.intercalate_singleton]; rfl⟩
      | cons ys xss => exact ⟨_, by rw [List.intercalate_cons_cons]; rfl⟩
    rw [htokens]
    rw [hfirst] at hall ⊢
    rw [sequence, hall]
    rintro _ ⟨⟩

end Passbook.Json
