import Passbook.Text.Digits
import Passbook.Text.Utf8
/-!
The tokens of a JSON text, cut from its bytes by a machine that takes one byte at a time. The tokens end where the
text goes wrong, with the token `broken`, so a reader that stops early never learns of it.
-/
namespace Passbook.Json

inductive Token where
  | null
  | bool (value : Bool)
  | number (text : String)
  /-- A text, or nothing if its bytes or escapes spell none. -/
  | text (content : Option String)
  | openArray
  | closeArray
  | openObject
  | closeObject
  | comma
  | colon
  | broken
  deriving DecidableEq, Repr

inductive NumberStage where
  | minus
  | zero
  | whole
  | point
  | fraction
  | mark
  | sign
  | power
  deriving DecidableEq, Repr

namespace NumberStage

def isComplete : NumberStage → Bool
  | .zero | .whole | .fraction | .power => true
  | .minus | .point | .mark | .sign => false

/-- The stage after a character that belongs to the number, with what is written for it: an exponent always has
a small mark and a sign. -/
def next? (c : Char) : NumberStage → Option (NumberStage × List Char)
  | .minus => if c = '0' then some (.zero, [c]) else if c.isDigit then some (.whole, [c]) else none
  | .zero =>
    if c = '.' then some (.point, [c]) else if c = 'e' ∨ c = 'E' then some (.mark, ['e']) else none
  | .whole =>
    if c.isDigit then some (.whole, [c]) else if c = '.' then some (.point, [c])
    else if c = 'e' ∨ c = 'E' then some (.mark, ['e']) else none
  | .point => if c.isDigit then some (.fraction, [c]) else none
  | .fraction =>
    if c.isDigit then some (.fraction, [c]) else if c = 'e' ∨ c = 'E' then some (.mark, ['e']) else none
  | .mark =>
    if c = '+' ∨ c = '-' then some (.sign, [c]) else if c.isDigit then some (.power, ['+', c]) else none
  | .sign => if c.isDigit then some (.power, [c]) else none
  | .power => if c.isDigit then some (.power, [c]) else none

def start? (c : Char) : Option (NumberStage × List Char) :=
  if c = '-' then some (.minus, [c]) else next? c .minus

end NumberStage

inductive NumberError where
  | unfinished
  | malformed
  deriving DecidableEq, Repr

def NumberError.message : NumberError → String
  | .unfinished => "EOF while parsing a value"
  | .malformed => "invalid number"

def number? : List Char → Except NumberError String
  | [] => .error .unfinished
  | c :: cs => do
    let begin (c : Char) := (NumberStage.start? c).elim (.error .malformed) .ok
    let (stage, written) ← cs.foldlM (fun (stage, written) c =>
      match NumberStage.next? c stage with
      | some (stage, more) => Except.ok (stage, written ++ more)
      | none => .error NumberError.malformed) (← begin c)
    if stage.isComplete then .ok (String.ofList written) else .error .unfinished

inductive Escape where
  | none
  | letter
  | code (left : Nat) (value : Nat)
  deriving DecidableEq, Repr

structure Draft where
  bytes : List UInt8 := []
  leading : Option Nat := none
  sound : Bool := true
  deriving DecidableEq, Repr

namespace Draft

def push (d : Draft) (bytes : List UInt8) : Draft :=
  { bytes := bytes.reverse ++ d.bytes, sound := d.sound && d.leading.isNone }

def pushCode (d : Draft) (value : Nat) : Draft :=
  let isLeading := 0xD800 ≤ value && value < 0xDC00
  let isTrailing := 0xDC00 ≤ value && value < 0xE000
  match d.leading with
  | some high =>
    if isTrailing then
      let c := Char.ofNat (0x10000 + (high - 0xD800) * 0x400 + (value - 0xDC00))
      { bytes := (String.utf8EncodeChar c).reverse ++ d.bytes, sound := d.sound }
    else { d with sound := false }
  | none =>
    if isLeading then { d with leading := some value }
    else if isTrailing then { d with sound := false }
    else d.push (String.utf8EncodeChar (Char.ofNat value))

def content? (d : Draft) : Option String :=
  if d.sound && d.leading.isNone then Utf8.decode? d.bytes.reverse else none

end Draft

inductive Mode where
  | between
  | word (rest : List Char) (token : Token)
  | number (stage : NumberStage) (written : List Char)
  | text (escape : Escape) (draft : Draft)
  | broken
  deriving DecidableEq, Repr

structure Lexer where
  tokens : List Token := []
  mode : Mode := .between
  deriving DecidableEq, Repr

namespace Lexer

def emit (l : Lexer) (t : Token) : Lexer := ⟨t :: l.tokens, .between⟩

def fail (l : Lexer) : Lexer := ⟨.broken :: l.tokens, .broken⟩

def begin (l : Lexer) (c : Char) : Lexer :=
  if c = ' ' ∨ c = '\n' ∨ c = '\r' ∨ c = '\t' then ⟨l.tokens, .between⟩
  else if c = '"' then ⟨l.tokens, .text .none {}⟩
  else if c = '\x7b' then l.emit .openObject
  else if c = '\x7d' then l.emit .closeObject
  else if c = '[' then l.emit .openArray
  else if c = ']' then l.emit .closeArray
  else if c = ',' then l.emit .comma
  else if c = ':' then l.emit .colon
  else if c = 'n' then ⟨l.tokens, .word ['u', 'l', 'l'] .null⟩
  else if c = 't' then ⟨l.tokens, .word ['r', 'u', 'e'] (.bool true)⟩
  else if c = 'f' then ⟨l.tokens, .word ['a', 'l', 's', 'e'] (.bool false)⟩
  else match NumberStage.start? c with
    | some (stage, written) => ⟨l.tokens, .number stage written.reverse⟩
    | none => l.fail

def escaped? (c : Char) : Option UInt8 :=
  if c = '"' then some 0x22 else if c = '\\' then some 0x5C else if c = '/' then some 0x2F
  else if c = 'b' then some 0x08 else if c = 'f' then some 0x0C else if c = 'n' then some 0x0A
  else if c = 'r' then some 0x0D else if c = 't' then some 0x09 else none

def insideText (l : Lexer) (escape : Escape) (draft : Draft) (b : UInt8) (c : Char) : Lexer :=
  match escape with
  | .none =>
    if c = '"' then l.emit (.text draft.content?)
    else if c = '\\' then ⟨l.tokens, .text .letter draft⟩
    else if b < 0x20 then l.fail
    else ⟨l.tokens, .text .none (draft.push [b])⟩
  | .letter =>
    if c = 'u' then ⟨l.tokens, .text (.code 4 0) draft⟩
    else match escaped? c with
      | some b => ⟨l.tokens, .text .none (draft.push [b])⟩
      | none => l.fail
  | .code left value =>
    match Text.hexDigit? c with
    | none => l.fail
    | some d =>
      let value := 16 * value + d
      if left ≤ 1 then ⟨l.tokens, .text .none (draft.pushCode value)⟩
      else ⟨l.tokens, .text (.code (left - 1) value) draft⟩

def insideNumber (l : Lexer) (stage : NumberStage) (written : List Char) (c : Char) : Lexer :=
  match NumberStage.next? c stage with
  | some (stage, more) => ⟨l.tokens, .number stage (more.reverse ++ written)⟩
  | none =>
    if stage.isComplete && !(stage == .zero && c.isDigit) then
      (l.emit (.number (String.ofList written.reverse))).begin c
    else l.fail

def step (l : Lexer) (b : UInt8) : Lexer :=
  let c := Char.ofNat b.toNat
  match l.mode with
  | .between => l.begin c
  | .word rest token =>
    match rest with
    | [] => l.fail
    | [x] => if c = x then l.emit token else l.fail
    | x :: more => if c = x then ⟨l.tokens, .word more token⟩ else l.fail
  | .number stage written => l.insideNumber stage written c
  | .text escape draft => l.insideText escape draft b c
  | .broken => l

def finish (l : Lexer) : List Token :=
  match l.mode with
  | .between | .broken => l.tokens.reverse
  | .number stage written =>
    if stage.isComplete then (l.emit (.number (String.ofList written.reverse))).tokens.reverse
    else l.fail.tokens.reverse
  | .word _ _ | .text _ _ => l.fail.tokens.reverse

end Lexer

def tokens (bytes : List UInt8) : List Token := (bytes.foldl Lexer.step {}).finish

end Passbook.Json
