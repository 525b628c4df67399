import Passbook.Proofs.Instant.Printing
import Passbook.Proofs.Json.Rendering
import Passbook.Proofs.Uuid.Printing

/-! Single values that travel as texts. The text that is printed of an identity, an instant or an amount is read back as
the one it was printed of. -/

namespace Passbook.Wire

open Json

variable {room : Nat}

lemma readsBack_textual {α : Type} {expected : String} {accept : String → Except Problem α} {s : String} {a : α}
    (h : accept s = .ok a) : ReadsBack (textual expected accept) room a [.text (some s)] := by
  intro ts
  simp [textual, h]

lemma readsBack_mapDecoder {α β : Type} {decode : Decoder α} {a : α} {xs : List Token} (f : α → β)
    (h : ReadsBack decode room a xs) : ReadsBack (mapDecoder f decode) room (f a) xs := by
  intro ts
  rw [mapDecoder, h ts]
  rfl

lemma readsBack_uuid (x : Uuid) : ReadsBack uuid room x [.text (some x.text)] := by
  apply readsBack_textual
  rw [Uuid.text, String.toList_ofList, x.read_render]
  rfl

lemma readsBack_userId (id : UserId) : ReadsBack userId room id [.text (some id.uuid.text)] :=
  readsBack_mapDecoder UserId.mk (readsBack_uuid id.uuid)

lemma readsBack_transactionId (id : TransactionId) : ReadsBack transactionId room id [.text (some id.uuid.text)] :=
  readsBack_mapDecoder TransactionId.mk (readsBack_uuid id.uuid)

lemma readsBack_idempotencyKey (key : IdempotencyKey) :
    ReadsBack idempotencyKey room key [.text (some key.uuid.text)] :=
  readsBack_mapDecoder IdempotencyKey.mk (readsBack_uuid key.uuid)

lemma readsBack_instant (t : Instant) : ReadsBack instant room t [.text (some t.text)] := by
  apply readsBack_textual
  rw [Instant.text, String.toList_ofList, t.read_render]
  rfl

lemma readsBack_storedAmount (a : Amount) : ReadsBack storedAmount room a [.text (some a.text)] := by
  apply readsBack_textual
  rw [Amount.text, String.toList_ofList, a.readStored?_render]
  rfl

end Passbook.Wire
