import Passbook.Json.Token
import Passbook.Json.Value
import Passbook.Text.Quoted
/-!
Reading data out of a JSON text as it comes: a decoder takes the tokens it needs, and the first problem in the
order of the text is the one reported. A text that is not JSON is malformed where it stops being JSON.
-/
namespace Passbook.Json

inductive Found where
  | null
  | bool (value : Bool)
  | integer (value : Int)
  | float (text : String)
  | number
  | text (content : String)
  | sequence
  | map
  deriving DecidableEq, Repr

def Found.describe : Found → String
  | .null => "null"
  | .bool b => "boolean `" ++ (if b then "true" else "false") ++ "`"
  | .integer n => "integer `" ++ toString n ++ "`"
  | .float t => "floating point `" ++ t ++ "`"
  | .number => "number"
  | .text s => "string " ++ Text.quoted s
  | .sequence => "sequence"
  | .map => "map"

inductive Problem where
  | missingField (name : String)
  | duplicateField (name : String)
  | wrongType (found : Found) (expected : String)
  | wrongValue (found : Found) (expected : String)
  | wrongLength (length : Nat) (expected : String)
  | refused (reason : String)
  deriving DecidableEq, Repr

def Problem.message : Problem → String
  | .missingField name => "missing field `" ++ name ++ "`"
  | .duplicateField name => "duplicate field `" ++ name ++ "`"
  | .wrongType found expected => "invalid type: " ++ found.describe ++ ", expected " ++ expected
  | .wrongValue found expected => "invalid value: " ++ found.describe ++ ", expected " ++ expected
  | .wrongLength n expected => "invalid length " ++ toString n ++ ", expected " ++ expected
  | .refused reason => reason

inductive Place where
  | field (name : String)
  | index (i : Nat)
  deriving DecidableEq, Repr

inductive Fault where
  | malformed
  | unfit (path : List Place) (problem : Problem)
  deriving DecidableEq, Repr

namespace Fault

def within (place : Place) : Fault → Fault
  | malformed => malformed
  | unfit path problem => unfit (place :: path) problem

def renderPath : List Place → String
  | [] => ""
  | .field name :: rest => name ++ (match rest with | .field _ :: _ => "." | _ => "") ++ renderPath rest
  | .index i :: rest =>
    "[" ++ toString i ++ "]" ++ (match rest with | .field _ :: _ => "." | _ => "") ++ renderPath rest

end Fault

abbrev Reading (α : Type) := Except Fault (α × List Token)

/-- Reads an `α` from the front of the tokens; `room` is how many more arrays and objects may open. -/
abbrev Decoder (α : Type) := (room : Nat) → List Token → Reading α

def maxNesting : Nat := 127

def unfit {α : Type} (p : Problem) : Except Fault α := .error (.unfit [] p)

def integer? (text : String) : Option Int :=
  match text.toList with
  | '-' :: cs =>
    if cs.all Char.isDigit && cs ≠ ['0'] then
      let n := Nat.ofDigitChars 10 cs 0
      if n ≤ Nat.pow 2 63 then some (-n) else none
    else none
  | cs =>
    if cs.all Char.isDigit then
      let n := Nat.ofDigitChars 10 cs 0
      if n < Nat.pow 2 64 then some n else none
    else none

def foundNumber (text : String) : Found := (integer? text).elim .number .integer

def mismatch {α : Type} (expected : String) : Token → Except Fault α
  | .null => unfit (.wrongType .null expected)
  | .bool b => unfit (.wrongType (.bool b) expected)
  | .number text => unfit (.wrongType (foundNumber text) expected)
  | .text (some s) => unfit (.wrongType (.text s) expected)
  | .openArray => unfit (.wrongType .sequence expected)
  | .openObject => unfit (.wrongType .map expected)
  | _ => .error .malformed

def textual {α : Type} (expected : String) (accept : String → Except Problem α) : Decoder α
  | _, .text (some s) :: ts =>
    match accept s with
    | .ok a => .ok (a, ts)
    | .error p => unfit p
  | _, t :: _ => mismatch expected t
  | _, [] => .error .malformed

def optional {α : Type} (decode : Decoder α) : Decoder (Option α)
  | _, .null :: ts => .ok (none, ts)
  | room, ts => (decode room ts).map fun r => (some r.1, r.2)

/-! ### Any value -/

inductive Frame where
  | array (items : List Value)
  | object (members : List (String × Value)) (key : String)

/-- What the next token has to be. The last three read the number in an object that stands for one. -/
inductive Phase where
  | value
  | firstItem
  | firstKey
  | key
  | colon
  | separator
  | markColon
  | markText
  | markEnd (digits : String)
  deriving DecidableEq, Repr

/-- The key that makes an object stand for the number in its text. -/
def numberMark : String := "$serde_json::private::Number"

inductive Advance (σ α : Type) where
  | finished (result : α)
  | more (state : σ)

abbrev Step (σ α : Type) := Except Fault (Advance σ α)

def feed {σ α : Type} (step : σ → Token → Step σ α) : σ → List Token → Reading α
  | _, [] => .error .malformed
  | s, t :: ts =>
    match step s t with
    | .ok (.finished a) => .ok (a, ts)
    | .ok (.more s) => feed step s ts
    | .error fault => .error fault

namespace Frame

abbrev Open := List Frame × Phase

def deliver (v : Value) : List Frame → Step Open Value
  | [] => .ok (.finished v)
  | .array items :: fs => .ok (.more (.array (v :: items) :: fs, .separator))
  | .object members key :: fs => .ok (.more (.object (insertMember key v members) key :: fs, .separator))

def setKey (key : String) : List Frame → Step Open Value
  | .object members _ :: fs => .ok (.more (.object members key :: fs, .colon))
  | _ => .error .malformed

def enter (room : Nat) (fs : List Frame) : Token → Step Open Value
  | .null => deliver .null fs
  | .bool b => deliver (.bool b) fs
  | .number digits => deliver (.number digits) fs
  | .text (some s) => deliver (.text s) fs
  | .openArray => if fs.length < room then .ok (.more (.array [] :: fs, .firstItem)) else .error .malformed
  | .openObject => if fs.length < room then .ok (.more (.object [] "" :: fs, .firstKey)) else .error .malformed
  | _ => .error .malformed

def close : Token → List Frame → Step Open Value
  | .closeArray, .array items :: fs => deliver (.array items.reverse) fs
  | .closeObject, .object members _ :: fs => deliver (.object members) fs
  | _, _ => .error .malformed

def separate : Token → List Frame → Step Open Value
  | .comma, .array items :: fs => .ok (.more (.array items :: fs, .value))
  | .comma, .object members key :: fs => .ok (.more (.object members key :: fs, .key))
  | t, fs => close t fs

def readMark (fs : List Frame) : Token → Step Open Value
  | .text (some s) =>
    match number? s.toList with
    | .ok digits => .ok (.more (fs, .markEnd digits))
    | .error e => unfit (.refused e.message)
  | t => mismatch "string containing a number" t

def step (room : Nat) (s : Open) (t : Token) : Step Open Value :=
  let (fs, phase) := s
  match phase, t with
  | .value, t => enter room fs t
  | .firstItem, .closeArray => close .closeArray fs
  | .firstItem, t => enter room fs t
  | .firstKey, .closeObject => close .closeObject fs
  | .firstKey, .text (some key) =>
    if key = numberMark then .ok (.more (fs, .markColon)) else setKey key fs
  | .key, .text (some key) => setKey key fs
  | .colon, .colon => .ok (.more (fs, .value))
  | .separator, t => separate t fs
  | .markColon, .colon => .ok (.more (fs, .markText))
  | .markText, t => readMark fs t
  | .markEnd digits, .closeObject => deliver (.number digits) fs.tail
  | _, _ => .error .malformed

end Frame

def value : Decoder Value := fun room ts => feed (Frame.step room) ([], .value) ts

/-! ### Values that nobody reads -/

inductive Bracket where
  | array
  | object
  deriving DecidableEq, Repr

namespace Bracket

abbrev Open := List Bracket × Phase

def leave : List Bracket → Step Open Unit
  | [] => .ok (.finished ())
  | bs => .ok (.more (bs, .separator))

def enter (bs : List Bracket) : Token → Step Open Unit
  | .null | .bool _ | .number _ | .text _ => leave bs
  | .openArray => .ok (.more (array :: bs, .firstItem))
  | .openObject => .ok (.more (object :: bs, .firstKey))
  | _ => .error .malformed

def close : Token → List Bracket → Step Open Unit
  | .closeArray, array :: bs => leave bs
  | .closeObject, object :: bs => leave bs
  | _, _ => .error .malformed

def separate : Token → List Bracket → Step Open Unit
  | .comma, array :: bs => .ok (.more (array :: bs, .value))
  | .comma, object :: bs => .ok (.more (object :: bs, .key))
  | t, bs => close t bs

def step (s : Open) (t : Token) : Step Open Unit :=
  let (bs, phase) := s
  match phase, t with
  | .value, t => enter bs t
  | .firstItem, .closeArray => close .closeArray bs
  | .firstItem, t => enter bs t
  | .firstKey, .closeObject => close .closeObject bs
  | .firstKey, .text _ | .key, .text _ => .ok (.more (bs, .colon))
  | .colon, .colon => .ok (.more (bs, .value))
  | .separator, t => separate t bs
  | _, _ => .error .malformed

end Bracket

def pass (ts : List Token) : Except Fault (List Token) := (feed Bracket.step ([], .value) ts).map Prod.snd

end Passbook.Json
