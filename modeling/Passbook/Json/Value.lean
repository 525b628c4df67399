import Passbook.Text.Digits
/-!
JSON values and their compact texts.
-/
namespace Passbook.Json

/-- A number is the text it was sent as. Members of an object are in ascending order of their keys. -/
inductive Value where
  | null
  | bool (value : Bool)
  | number (text : String)
  | text (content : String)
  | array (items : List Value)
  | object (members : List (String × Value))
  deriving Repr, Inhabited

def insertMember (key : String) (value : Value) : List (String × Value) → List (String × Value)
  | [] => [(key, value)]
  | (k, v) :: rest =>
    if key < k then (key, value) :: (k, v) :: rest
    else if key = k then (key, value) :: rest
    else (k, v) :: insertMember key value rest

def escapedChar (c : Char) : List Char :=
  if c = '"' then ['\\', '"']
  else if c = '\\' then ['\\', '\\']
  else if c = '\x08' then ['\\', 'b']
  else if c = '\x0c' then ['\\', 'f']
  else if c = '\n' then ['\\', 'n']
  else if c = '\r' then ['\\', 'r']
  else if c = '\t' then ['\\', 't']
  else if c.toNat < 0x20 then '\\' :: 'u' :: Text.zeroPadded 4 (Text.hexadecimal c.toNat)
  else [c]

def renderText (s : String) : String := String.ofList ('"' :: s.toList.flatMap escapedChar ++ ['"'])

def renderArray (items : List String) : String := "[" ++ ",".intercalate items ++ "]"

def renderObject (members : List (String × String)) : String :=
  "\x7b" ++ ",".intercalate (members.map fun m => renderText m.1 ++ ":" ++ m.2) ++ "\x7d"

namespace Value

mutual

def render : Value → String
  | null => "null"
  | bool b => if b then "true" else "false"
  | number digits => digits
  | text s => renderText s
  | array items => renderArray (renderItems items)
  | object members => renderObject (renderMembers members)

def renderItems : List Value → List String
  | [] => []
  | v :: vs => v.render :: renderItems vs

def renderMembers : List (String × Value) → List (String × String)
  | [] => []
  | (k, v) :: ms => (k, v.render) :: renderMembers ms

end

end Value

end Passbook.Json
