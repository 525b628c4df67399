/-!
Media types, as far as they say that a body is JSON.
-/
namespace Passbook.Http

namespace MediaType

def isToken (c : Char) : Bool := c.isAlphanum || "!#$%&'*+-.^_\x60|~".toList.contains c

def isQuotable (c : Char) : Bool := ' ' ≤ c && c != '\x7f'

inductive Stage where
  | name (begun : Bool)
  | value (begun : Bool)
  | quoted (begun : Bool)
  | closed
  deriving DecidableEq, Repr

def Stage.next? (c : Char) : Stage → Option Stage
  | name false => if c = ' ' then some (name false) else if isToken c then some (name true) else none
  | name true => if isToken c then some (name true) else if c = '=' then some (value false) else none
  | value false => if c = '"' then some (quoted false) else if isToken c then some (value true) else none
  | value true => if isToken c then some (value true) else if c = ';' then some (name false) else none
  | quoted false => if isQuotable c then some (quoted true) else none
  | quoted true => if c = '"' then some closed else if isQuotable c then some (quoted true) else none
  | closed => if c = ';' then some (name false) else if c = ' ' then some closed else none

def Stage.isComplete : Stage → Bool
  | name begun => !begun
  | value _ => true
  | quoted _ => false
  | closed => true

def areParameters (cs : List Char) : Bool :=
  ((cs.foldlM (fun stage c => Stage.next? c stage) (.name false)).map Stage.isComplete).getD false

def suffix? (subtype : List Char) : Option (List Char × List Char) :=
  let suffix := (subtype.reverse.takeWhile (· != '+')).reverse
  let base := subtype.take (subtype.length - suffix.length - 1)
  if suffix.length < subtype.length ∧ base ≠ [] then some (base, suffix) else none

def json : List Char := ['j', 's', 'o', 'n']

def isJsonSubtype (subtype : List Char) : Bool :=
  match suffix? subtype with
  | none => subtype == json
  | some (base, suffix) => base == json || suffix == json

def isJson (text : String) : Bool :=
  let cs := text.toList.map Char.toLower
  let main := cs.takeWhile isToken
  match cs.drop main.length with
  | '/' :: rest =>
    let subtype := rest.takeWhile isToken
    let wellFormed := match rest.drop subtype.length with
      | [] => true
      | c :: parameters => c == ';' && areParameters parameters
    main == "application".toList && isJsonSubtype subtype && wellFormed
  | _ => false

end MediaType

end Passbook.Http
