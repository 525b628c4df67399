import Passbook.Identity
import Passbook.Proofs.Amount.Printing

/-! The identity of a transaction is the hash of its request, and what is hashed says which key, which user and which
value, and no more. Two requests of one identity are one request, or a collision of the hash. -/

namespace Passbook

namespace Amount

/-- An amount as it is kept: with a sign of its own, so that there are two zeros of each scale. -/
structure Parts where
  negative : Bool
  mantissa : Nat
  scale : Nat
  mantissa_lt : mantissa < limit
  scale_le : scale ≤ maxScale
  deriving Repr

namespace Parts

def amount (p : Parts) : Amount where
  coefficient := if p.negative then -(p.mantissa : Int) else p.mantissa
  scale := p.scale
  coefficient_lt := by
    have hlt := p.mantissa_lt
    split <;> simpa
  scale_le := p.scale_le

def value (p : Parts) : Rat := (if p.negative then -1 else 1) * p.mantissa / 10 ^ p.scale

def normalize (p : Parts) : Parts where
  negative := p.negative && p.mantissa != 0
  mantissa := (strip p.mantissa p.scale).1.natAbs
  scale := (strip p.mantissa p.scale).2
  mantissa_lt := Nat.lt_of_le_of_lt (natAbs_strip_le _ _).1 p.mantissa_lt
  scale_le := Nat.le_trans (natAbs_strip_le _ _).2 p.scale_le

def text (p : Parts) : String :=
  String.ofList ((if p.negative then ['-'] else []) ++ renderDigits p.mantissa p.scale)

lemma withSign?_eq (p : Parts) : withSign? p.negative p.mantissa p.scale = some p.amount :=
  of?_eq_some_iff.mpr ⟨rfl, rfl⟩

lemma value_amount (p : Parts) : p.amount.value = p.value := by
  have hsign : (p.amount.coefficient : Rat) = (if p.negative then -1 else 1) * p.mantissa := by
    cases hp : p.negative <;> simp [amount, hp]
  rw [value_eq_div, hsign]
  rfl

lemma amount_normalize (p : Parts) : p.normalize.amount = p.amount.normalize := by
  have hnonneg := strip_natCast_nonneg p.mantissa p.scale
  cases hp : p.negative with
  | false => apply ext <;> simp [amount, normalize, Amount.normalize, hp, hnonneg]
  | true =>
    have hneg := strip_neg p.mantissa p.scale
    -- The sign of a zero is given up on either side.
    by_cases hm : p.mantissa = 0
    · apply ext <;> simp [amount, normalize, Amount.normalize, hp, hm, strip_zero]
    · apply ext <;> simp [amount, normalize, Amount.normalize, hp, hm, hneg, hnonneg]

lemma text_amount {p : Parts} (h : p.negative → 0 < p.mantissa) : p.amount.text = p.text := by
  cases hp : p.negative with
  | false => simp [Amount.text, render, text, amount, hp]
  | true =>
    have hm := h hp
    simp [Amount.text, render, text, amount, hp, hm]

lemma text_normalize (p : Parts) : p.normalize.text = p.amount.normalize.text := by
  rw [← amount_normalize, text_amount]
  intro hneg
  obtain ⟨-, hm⟩ : p.negative = true ∧ p.mantissa ≠ 0 := by simpa [normalize] using hneg
  have hpos := strip_pos (c := p.mantissa) (by omega) p.scale
  exact Int.natAbs_pos.mpr (by omega)

end Parts

end Amount

def Uuid.hashed (bytes : List UInt8) : List UInt8 := Uuid.stamp 5 ((Sha1.digest bytes).bytes.take 16)

def Amount.Parts.preimage (key : IdempotencyKey) (user : UserId) (p : Amount.Parts) : List UInt8 :=
  key.uuid.bytes ++ (user.uuid.bytes ++ Utf8.encode p.normalize.text)

namespace TransactionId

variable {key key' : IdempotencyKey} {user user' : UserId} {p p' : Amount.Parts}

lemma preimage_eq (key : IdempotencyKey) (user : UserId) (p : Amount.Parts) :
    p.preimage key user = key.uuid.bytes ++ name user p.amount := by
  rw [Amount.Parts.preimage, p.text_normalize]
  rfl

lemma bytes_derive (key : IdempotencyKey) (user : UserId) (p : Amount.Parts) :
    (derive key user p.amount).uuid.bytes = Uuid.hashed (p.preimage key user) := by
  rw [preimage_eq]
  rfl

lemma preimage_eq_iff :
    p.preimage key user = p'.preimage key' user' ↔ key = key' ∧ user = user' ∧ p.value = p'.value := by
  have hvalue : p.normalize.text = p'.normalize.text ↔ p.value = p'.value := by
    rw [p.text_normalize, p'.text_normalize, Amount.normalize_text_eq_iff, p.value_amount, p'.value_amount]
  constructor
  · intro h
    -- sixteen bytes for the key and sixteen for the user, so there is one way to cut
    obtain ⟨hkey, hname⟩ := List.append_inj h (key.uuid.length_bytes.trans key'.uuid.length_bytes.symm)
    obtain ⟨huser, htext⟩ := List.append_inj hname (user.uuid.length_bytes.trans user'.uuid.length_bytes.symm)
    have hdecode := Utf8.decode?_encode p.normalize.text
    rw [htext, Utf8.decode?_encode] at hdecode
    refine ⟨?_, ?_, hvalue.mp (Option.some.inj hdecode).symm⟩
    · exact congrArg IdempotencyKey.mk (Uuid.ext hkey)
    · exact congrArg UserId.mk (Uuid.ext huser)
  · rintro ⟨rfl, rfl, h⟩
    rw [Amount.Parts.preimage, Amount.Parts.preimage, hvalue.mpr h]

end TransactionId

open TransactionId in
/-- What is hashed for two requests is the same just when they have one key, one user and one value, whatever signs,
mantissas and scales make the values. So these have one identity, and two others share theirs only if the hash sends two
byte strings to one. -/
theorem identity_separates_requests (key key' : IdempotencyKey) (user user' : UserId) (p p' : Amount.Parts) :
    Amount.withSign? p.negative p.mantissa p.scale = some p.amount ∧
    p.preimage key user = key.uuid.bytes ++ name user p.amount ∧
    (derive key user p.amount).uuid.bytes = Uuid.hashed (p.preimage key user) ∧
    (p.preimage key user = p'.preimage key' user' ↔ key = key' ∧ user = user' ∧ p.value = p'.value) ∧
    (p.value = p'.value → derive key user p.amount = derive key user p'.amount) ∧
    (derive key user p.amount = derive key' user' p'.amount →
      (key = key' ∧ user = user' ∧ p.value = p'.value) ∨
      p.preimage key user ≠ p'.preimage key' user' ∧
        Uuid.hashed (p.preimage key user) = Uuid.hashed (p'.preimage key' user')) := by
  refine ⟨p.withSign?_eq, preimage_eq key user p, bytes_derive key user p, preimage_eq_iff, ?_, ?_⟩
  · intro h
    have hbytes : Uuid.hashed (p.preimage key user) = Uuid.hashed (p'.preimage key user) := by
      rw [preimage_eq_iff.mpr ⟨rfl, rfl, h⟩]
    rw [← bytes_derive, ← bytes_derive] at hbytes
    exact congrArg TransactionId.mk (Uuid.ext hbytes)
  · intro h
    by_cases hsame : p.preimage key user = p'.preimage key' user'
    · exact .inl (preimage_eq_iff.mp hsame)
    · refine .inr ⟨hsame, ?_⟩
      rw [← bytes_derive, ← bytes_derive, h]

example (key : IdempotencyKey) (user : UserId) :
    (⟨true, 0, 2, by decide, by decide⟩ : Amount.Parts).preimage key user =
      (⟨false, 0, 0, by decide, by decide⟩ : Amount.Parts).preimage key user := rfl

end Passbook
