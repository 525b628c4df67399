import Passbook.Proofs.Json.Arrays
import Passbook.Proofs.Service.Resubmission

/-! Transactions that travel. What a transaction is written as is read back as that transaction, field by field, so a page
of a history is read as the records of the store in their order. -/

namespace Passbook

open Json

lemma Utf8.encode_injective {s t : String} (h : encode s = encode t) : s = t := by
  have hread := decode?_encode s
  rw [h, decode?_encode] at hread
  exact (Option.some.inj hread).symm

namespace Transaction

def members (t : Transaction) : List (String × List Token) :=
  [("id", [.text (some t.id.uuid.text)]), ("user_id", [.text (some t.userId.uuid.text)]),
    ("amount", [.text (some t.amount.text)]), ("created_at", [.text (some t.createdAt.text)]),
    ("idempotency_key", [.text (some t.idempotencyKey.uuid.text)])]

lemma lexes_json (t : Transaction) : Lexes t.json (objectTokens t.members) := by
  apply lexes_renderObject
  exact .cons ⟨rfl, lexes_renderText _⟩ (.cons ⟨rfl, lexes_renderText _⟩ (.cons ⟨rfl, lexes_renderText _⟩
    (.cons ⟨rfl, lexes_renderText _⟩ (.cons ⟨rfl, lexes_renderText _⟩ .nil))))

lemma fills_members (t : Transaction) (room : Nat) : record.Fills room record.start t.members
    ⟨some t.id, some t.userId, some t.amount, some t.createdAt, some t.idempotencyKey⟩ := by
  apply Record.Fills.read rfl rfl (Wire.readsBack_transactionId t.id)
  apply Record.Fills.read rfl rfl (Wire.readsBack_userId t.userId)
  apply Record.Fills.read rfl rfl (Wire.readsBack_storedAmount t.amount)
  apply Record.Fills.read rfl rfl (Wire.readsBack_instant t.createdAt)
  apply Record.Fills.read rfl rfl (Wire.readsBack_idempotencyKey t.idempotencyKey)
  exact .nil

lemma readsBack_members (t : Transaction) (room : Nat) :
    ReadsBack decode (room + 1) t (objectTokens t.members) := by
  intro ts
  exact (Record.decode_of_fills (t.fills_members room) ts).trans rfl

theorem decodeAll_json (t : Transaction) : decodeAll decode (Utf8.encode t.json) = .ok t :=
  (t.readsBack_members 126).decodeAll_eq t.lexes_json

theorem json_injective {s t : Transaction} (h : s.json = t.json) : s = t := by
  have hread := s.decodeAll_json
  rw [h, t.decodeAll_json] at hread
  exact (Except.ok.inj hread).symm

end Transaction

theorem decodeAll_historyJson (ts : List Transaction) :
    decodeAll (sequence Transaction.decode) (Utf8.encode (historyJson ts)) = .ok ts := by
  have hlexes : Lexes (historyJson ts) (arrayTokens (ts.map fun t => objectTokens t.members)) := by
    apply lexes_renderArray
    rw [List.forall₂_map_left_iff, List.forall₂_map_right_iff, List.forall₂_same]
    exact fun t _ => t.lexes_json
  have hread : List.Forall₂ (ReadsBack Transaction.decode 126) ts (ts.map fun t => objectTokens t.members) := by
    rw [List.forall₂_map_right_iff, List.forall₂_same]
    exact fun t _ => t.readsBack_members 125
  have hopen : ∀ xs ∈ ts.map fun t => objectTokens t.members, ∃ rest, xs = .openObject :: rest := by
    intro xs hxs
    obtain ⟨t, -, rfl⟩ := List.mem_map.mp hxs
    exact ⟨_, rfl⟩
  exact (sequence_of_readsBack hread hopen).decodeAll_eq hlexes

open Transaction in
/-- A transaction that is read from any text is written as a text that is read as the same transaction, with the scale of
its amount and the nanoseconds of its time, and two transactions are written as the same bytes just when they are one. So
a page of a history is read as the records that the store has on it. They stand in the order of history, and from
wherever a client moves them, sorting brings them back. -/
theorem transactions_survive_the_wire :
    (∀ bytes t, decodeAll decode bytes = .ok t →
      decodeAll decode (Utf8.encode t.json) = .ok t ∧
      ∀ bytes' t', decodeAll decode bytes' = .ok t' → (Utf8.encode t'.json = Utf8.encode t.json ↔ t' = t)) ∧
    ∀ timeout s, Store.Reaches timeout {} s → ∀ (x : Exchange) id r, x.request.method = .get →
      Route.of? x.request.target.path = some (.history id) → x.response? timeout s = some r → r.status = 200 →
      ∃ user number size p ts, Service.historyPage id x.request.target.query = .ok (user, number, size) ∧
        Page.of? number size = some p ∧ ts = p.select (s.history user) ∧
        decodeAll (sequence decode) (Utf8.encode r.body) = .ok ts ∧
        ts.Pairwise (fun t t' => t.historyOrder t' = .lt) ∧
        ∀ moved : List Transaction, moved.Perm ts → (sortedPlaces moved).map (moved[·]?) = ts.map some := by
  constructor
  · intro bytes t _
    refine ⟨t.decodeAll_json, fun bytes' t' _ => ⟨fun h => ?_, fun h => by rw [h]⟩⟩
    exact json_injective (Utf8.encode_injective h)
  · intro timeout s hs x id r hget hroute hr hstatus
    obtain ⟨user, number, size, p, hpage, hp, rfl, -⟩ := Exchange.exists_page_of_ok hget hroute hr hstatus
    have hsorted : Sorted (p.select (s.history user)) := by
      have hslice : (p.select (s.history user)).Sublist (s.history user) :=
        (List.take_sublist _ _).trans (List.drop_sublist _ _)
      exact ((hs.genuine Store.Genuine.empty).sorted_history user).sublist hslice
    exact ⟨user, number, size, p, _, hpage, hp, rfl, decodeAll_historyJson _, hsorted.imp isBefore_iff.mp,
      fun moved hperm => hsorted.map_sortedPlaces_eq hperm⟩

/-- A leap second at the end of a year, written at an offset from where it is in the next year, and an amount with more
places than can be held. -/
def leapYearsEve : String :=
  "\x7b\"note\": [null, \x7b\x7d], \"created_at\": \"9999-12-31t23:59:60.1234567891-00:01\", " ++
    "\"amount\": \"0.00000000000000000000000000015\", \"user_id\": \"67e5504410b1426f9247bb680e5fe0c8\", " ++
    "\"idempotency_key\": \"\x7b0D7F5D8E-3A55-4C35-9D8E-0C2B5F5E3C11\x7d\", " ++
    "\"id\": \"urn:uuid:67E55044-10B1-426F-9247-BB680E5FE0C8\"\x7d"

def browsing : Exchange where
  minted := ⟨default, default, default⟩
  request := { target := { path := Utf8.encode "/users/67e55044-10b1-426f-9247-bb680e5fe0c8/history" } }

open Exchange in
theorem leap_second_survives_the_wire :
    (∃ t, decodeAll Transaction.decode (Utf8.encode leapYearsEve) = .ok t ∧
      t.createdAt.text = "+10000-01-01T00:00:60.123456789Z" ∧ t.amount.text = "0.0000000000000000000000000002" ∧
      decodeAll Transaction.decode (Utf8.encode t.json) = .ok t) ∧
    ∃ r ts, browsing.response? none (unkeyed.after none (plain.after none (opening.after none {}))) = some r ∧
      decodeAll (sequence Transaction.decode) (Utf8.encode r.body) = .ok ts ∧ ts.length = 2 ∧
      ∀ moved : List Transaction, moved.Perm ts → (Transaction.sortedPlaces moved).map (moved[·]?) = ts.map some := by
  obtain ⟨hwritten, hpages⟩ := transactions_survive_the_wire
  constructor
  · have hread : (decodeAll Transaction.decode (Utf8.encode leapYearsEve)).toOption.map
        (fun t => (t.createdAt.text, t.amount.text)) =
        some ("+10000-01-01T00:00:60.123456789Z", "0.0000000000000000000000000002") := by
      decide +kernel
    cases hdecode : decodeAll Transaction.decode (Utf8.encode leapYearsEve) with
    | error fault => simp [hdecode, Except.toOption] at hread
    | ok t =>
      simp only [hdecode, Except.toOption, Option.map_some, Option.some.injEq, Prod.mk.injEq] at hread
      exact ⟨t, rfl, hread.1, hread.2, (hwritten _ t hdecode).1⟩
  · have hreply : (browsing.response? none (unkeyed.after none (plain.after none (opening.after none {})))).map
        (fun r => (r.status, (decodeAll (sequence Transaction.decode) (Utf8.encode r.body)).toOption.map List.length)) =
        some (200, some 2) := by
      decide +kernel
    obtain ⟨r, hr, hread⟩ := Option.map_eq_some_iff.mp hreply
    obtain ⟨hstatus, hlength⟩ := Prod.mk.inj hread
    obtain ⟨user, number, size, p, ts, -, -, -, hdecode, -, hsorts⟩ := hpages none _
      (.exchange unkeyed (.exchange plain (.exchange opening .refl))) browsing
      (Utf8.encode "67e55044-10b1-426f-9247-bb680e5fe0c8") r rfl (by decide +kernel) hr hstatus
    rw [hdecode] at hlength
    exact ⟨r, ts, hr, hdecode, Option.some.inj hlength, hsorts⟩

end Passbook
