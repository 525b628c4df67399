import Passbook.Json.Decoder
/-!
Records: objects with known members, or arrays of the same values in the order of the fields. Members that are not
known are passed over. A member that is missing shows at the end of its object, a second one where it starts.
-/
namespace Passbook.Json

/-- A member of a record that is built up in a draft `σ`. `spare` fields may be left out of an array. -/
structure Field (σ : Type) where
  name : String
  isSet : σ → Bool
  read : σ → Decoder σ
  spare : Bool

def Field.of {σ β : Type} (name : String) (spare : Bool) (decode : Decoder β) (get : σ → Option β)
    (set : Option β → σ → σ) : Field σ where
  name := name
  isSet draft := (get draft).isSome
  read draft room ts := (decode room ts).map fun r => (set (some r.1) draft, r.2)
  spare := spare

structure Record (σ α : Type) where
  name : String
  start : σ
  fields : List (Field σ)
  finish : σ → Except Problem α

def required {β : Type} (name : String) (value : Option β) : Except Problem β :=
  value.elim (.error (.missingField name)) .ok

namespace Record

variable {σ α : Type}

def field? (r : Record σ α) (name : String) : Option (Field σ) := r.fields.find? fun f => f.name == name

def expected (r : Record σ α) : String := "struct " ++ r.name

def expectedItems (r : Record σ α) : String :=
  r.expected ++ " with " ++ toString r.fields.length ++ " element" ++ (if r.fields.length = 1 then "" else "s")

def member (r : Record σ α) (room : Nat) (key : String) (draft : σ) (ts : List Token) : Reading σ :=
  let found := r.field? key
  match found.filter (·.isSet draft), ts with
  | some f, _ => unfit (.duplicateField f.name)
  | none, .colon :: ts =>
    match found with
    | some f => (f.read draft room ts).mapError (Fault.within (.field f.name))
    | none => (pass ts).map fun ts => (draft, ts)
  | none, _ => .error .malformed

def members (r : Record σ α) (room : Nat) : Nat → σ → List Token → Reading σ
  | _, _, [] => .error .malformed
  | 0, _, _ => .error .malformed
  | fuel + 1, draft, t :: ts =>
    match t with
    | .text (some key) =>
      match r.member room key draft ts with
      | .ok (draft, .comma :: ts) => r.members room fuel draft ts
      | .ok (draft, .closeObject :: ts) => .ok (draft, ts)
      | .ok _ => .error .malformed
      | .error fault => .error fault
    | _ => .error .malformed

def item (f : Field σ) (index room : Nat) (draft : σ) (ts : List Token) : Except Fault (Option (σ × List Token)) :=
  match index, ts with
  | _, .closeArray :: _ => .ok none
  | 0, ts => some <$> (f.read draft room ts).mapError (Fault.within (.index index))
  | _ + 1, .comma :: .closeArray :: _ => .error .malformed
  | _ + 1, .comma :: ts => some <$> (f.read draft room ts).mapError (Fault.within (.index index))
  | _ + 1, _ => .error .malformed

def items (r : Record σ α) (room : Nat) : List (Field σ) → Nat → σ → List Token → Reading σ
  | [], _, draft, ts => .ok (draft, ts)
  | f :: fs, index, draft, ts =>
    match item f index room draft ts with
    | .ok (some (draft, ts)) => r.items room fs (index + 1) draft ts
    | .ok none =>
      if f.spare then r.items room fs (index + 1) draft ts
      else unfit (.wrongLength index r.expectedItems)
    | .error fault => .error fault

def complete (r : Record σ α) (draft : σ) (ts : List Token) : Reading α :=
  match r.finish draft with
  | .ok a => .ok (a, ts)
  | .error p => unfit p

def decode (r : Record σ α) : Decoder α
  | _ + 1, .openObject :: .closeObject :: ts => r.complete r.start ts
  | room + 1, .openObject :: ts =>
    match r.members room ts.length r.start ts with
    | .ok (draft, ts) => r.complete draft ts
    | .error fault => .error fault
  | room + 1, .openArray :: ts =>
    match r.items room r.fields 0 r.start ts with
    | .ok (draft, .closeArray :: ts) => r.complete draft ts
    | .ok _ => .error .malformed
    | .error fault => .error fault
  | 0, .openObject :: _ => .error .malformed
  | 0, .openArray :: _ => .error .malformed
  | _, t :: _ => mismatch r.expected t
  | _, [] => .error .malformed

end Record

def decodeAll {α : Type} (decode : Decoder α) (bytes : List UInt8) : Except Fault α :=
  match decode maxNesting (tokens bytes) with
  | .ok (a, []) => .ok a
  | .ok (_, _ :: _) => .error .malformed
  | .error fault => .error fault

end Passbook.Json
