import Passbook.Json.Record
import Passbook.Proofs.Json.Rendering

/-! Objects that are read as records. An object with fields of a record, in any order, fills the draft of the record
member by member. -/

namespace Passbook.Json.Record

variable {σ α : Type} {r : Record σ α} {room : Nat}

inductive Fills (r : Record σ α) (room : Nat) : σ → List (String × List Token) → σ → Prop
  | nil {draft : σ} : Fills r room draft [] draft
  | cons {draft draft' draft'' : σ} {name : String} {value : List Token} {members : List (String × List Token)}
      {f : Field σ} : r.field? name = some f → f.isSet draft = false →
      (∀ ts, f.read draft room (value ++ ts) = .ok (draft', ts)) → Fills r room draft' members draft'' →
      Fills r room draft ((name, value) :: members) draft''

lemma Fills.read {β : Type} {decode : Decoder β} {get : σ → Option β} {set : Option β → σ → σ} {draft draft' : σ}
    {name : String} {spare : Bool} {b : β} {value : List Token} {members : List (String × List Token)}
    (hf : r.field? name = some (.of name spare decode get set)) (hunset : get draft = none)
    (hread : ReadsBack decode room b value) (h : r.Fills room (set (some b) draft) members draft') :
    r.Fills room draft ((name, value) :: members) draft' := by
  refine .cons hf ?_ ?_ h
  · simp [Field.of, hunset]
  · intro ts
    simp [Field.of, hread ts, Except.map]

lemma member_of_field {draft : σ} {name : String} {f : Field σ} (hf : r.field? name = some f)
    (hset : f.isSet draft = false) (ts : List Token) :
    r.member room name draft (.colon :: ts) = (f.read draft room ts).mapError (Fault.within (.field f.name)) := by
  have hnone : (some f).filter (·.isSet draft) = none := by simp [Option.filter, hset]
  simp only [member, hf, hnone]

def memberTokens (members : List (String × List Token)) : List Token :=
  [Token.comma].intercalate (members.map fun m => [.text (some m.1)] ++ [.colon] ++ m.2)

lemma memberTokens_singleton (m : String × List Token) :
    memberTokens [m] = .text (some m.1) :: .colon :: m.2 := by
  simp [memberTokens]

lemma memberTokens_cons_cons (m m' : String × List Token) (ms : List (String × List Token)) :
    memberTokens (m :: m' :: ms) = .text (some m.1) :: .colon :: (m.2 ++ .comma :: memberTokens (m' :: ms)) := by
  simp [memberTokens, List.intercalate_cons_cons]

lemma length_le_memberTokens (ms : List (String × List Token)) : ms.length ≤ (memberTokens ms).length := by
  induction ms with
  | nil => exact Nat.zero_le _
  | cons m ms ih =>
    cases ms with
    | nil => simp [memberTokens_singleton]
    | cons m' ms =>
      rw [memberTokens_cons_cons]
      simp only [List.length_cons, List.length_append] at ih ⊢
      omega

lemma members_of_fills {draft draft' : σ} {m : String × List Token} {ms : List (String × List Token)}
    (h : r.Fills room draft (m :: ms) draft') {fuel : Nat} (hfuel : ms.length < fuel) (ts : List Token) :
    r.members room fuel draft (memberTokens (m :: ms) ++ .closeObject :: ts) = .ok (draft', ts) := by
  induction ms generalizing m draft fuel with
  | nil =>
    obtain ⟨fuel, rfl⟩ := Nat.exists_eq_succ_of_ne_zero (Nat.ne_of_gt hfuel)
    cases h with
    | cons hf hset hread hrest =>
      cases hrest
      simp [memberTokens_singleton, members, member_of_field hf hset, hread, Except.mapError]
  | cons m' ms ih =>
    obtain ⟨fuel, rfl⟩ := Nat.exists_eq_succ_of_ne_zero (Nat.ne_zero_of_lt hfuel)
    cases h with
    | cons hf hset hread hrest =>
      have hmore := ih hrest (Nat.lt_of_succ_lt_succ hfuel)
      simp [memberTokens_cons_cons, members, member_of_field hf hset, hread, Except.mapError, hmore]

theorem decode_of_fills {draft : σ} {m : String × List Token} {ms : List (String × List Token)}
    (h : r.Fills room r.start (m :: ms) draft) (ts : List Token) :
    r.decode (room + 1) (objectTokens (m :: ms) ++ ts) = r.complete draft ts := by
  have hfuel : ms.length < (memberTokens (m :: ms) ++ .closeObject :: ts).length := by
    have hlength := length_le_memberTokens (m :: ms)
    simp only [List.length_append, List.length_cons] at hlength ⊢
    omega
  have hmembers := members_of_fills h hfuel ts
  have htokens : objectTokens (m :: ms) ++ ts = .openObject :: (memberTokens (m :: ms) ++ .closeObject :: ts) := by
    simp [objectTokens, memberTokens]
  obtain ⟨rest, hfirst⟩ : ∃ rest, memberTokens (m :: ms) ++ .closeObject :: ts = .text (some m.1) :: rest := by
    cases ms with
    | nil => exact ⟨_, by rw [memberTokens_singleton]; rfl⟩
    | cons m' ms => exact ⟨_, by rw [memberTokens_cons_cons]; rfl⟩
  rw [htokens]
  rw [hfirst] at hmembers ⊢
  simp only [decode, hmembers]

end Passbook.Json.Record
