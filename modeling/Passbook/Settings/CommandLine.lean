import Passbook.Settings.Address
/-!
The settings of the service, from flags and from the environment. A flag's value is taken when the flag is done
with, that is at the next known flag or at the end; arguments that nobody knows are refused on sight.
-/
namespace Passbook

structure Settings where
  bind : SocketAddress := .v4 [127, 0, 0, 1] 3000
  requestTimeout : Nat := 5000
  logLevel : String := "info"
  deriving DecidableEq, Repr

def Settings.timeout? (s : Settings) : Option Nat := if s.requestTimeout = 0 then none else some s.requestTimeout

namespace Settings

inductive Key where
  | bind
  | requestTimeout
  | logLevel
  deriving DecidableEq, Repr

namespace Key

def all : List Key := [bind, requestTimeout, logLevel]

def flag : Key → String
  | bind => "bind"
  | requestTimeout => "request-timeout-ms"
  | logLevel => "log-level"

def environmentName : Key → String
  | bind => "LEDGER_BIND"
  | requestTimeout => "LEDGER_REQUEST_TIMEOUT_MS"
  | logLevel => "LEDGER_LOG"

end Key

inductive Problem where
  | badValue
  | missingValue
  | repeated
  | unknown
  | unneededValue
  | helpWanted
  deriving DecidableEq, Repr

structure Progress where
  settings : Settings := {}
  keys : List Key := []
  deriving DecidableEq, Repr

namespace Progress

def set (p : Progress) (key : Key) (value : String) : Except Problem Progress :=
  let keys := key :: p.keys
  match key with
  | .bind =>
    (SocketAddress.read? value.toList).elim (.error .badValue) fun a =>
      .ok ⟨{ p.settings with bind := a }, keys⟩
  | .requestTimeout =>
    match Text.unsigned? (Nat.pow 2 64) value.toList with
    | .ok n => .ok ⟨{ p.settings with requestTimeout := n }, keys⟩
    | .error _ => .error .badValue
  | .logLevel => .ok ⟨{ p.settings with logLevel := value }, keys⟩

def setOnce (p : Progress) (key : Key) (value : String) : Except Problem Progress :=
  if p.keys.contains key then .error .repeated else p.set key value

end Progress

structure Reader where
  progress : Progress := {}
  pending : Option (Key × Option String) := none
  ended : Bool := false
  deriving DecidableEq, Repr

namespace Reader

def resolve (r : Reader) : Except Problem Reader :=
  match r.pending with
  | none => .ok r
  | some (_, none) => .error .missingValue
  | some (key, some value) => do return { r with progress := ← r.progress.setOnce key value, pending := none }

def key? (name : List Char) : Option Key := Key.all.find? fun k => k.flag.toList == name

def help (r : Reader) : Except Problem Reader := do
  let _ ← r.resolve
  .error .helpWanted

def flag (r : Reader) (name : List Char) (value : Option (List Char)) : Except Problem Reader :=
  match key? name, value with
  | some key, some value => do
    let r ← r.resolve
    return { r with progress := ← r.progress.setOnce key (String.ofList value) }
  | some key, none => do
    let r ← r.resolve
    return { r with pending := some (key, none) }
  | none, value =>
    if name ≠ "help".toList then .error .unknown
    else if value.isSome then .error .unneededValue
    else r.help

def value (r : Reader) (text : String) : Except Problem Reader :=
  match r.pending with
  | some (key, none) => .ok { r with pending := some (key, some text) }
  | _ => .error .unknown

def step (r : Reader) (argument : String) : Except Problem Reader :=
  if r.ended then .error .unknown
  else match argument.toList with
    | ['-', '-'] => .ok { r with ended := true }
    | '-' :: '-' :: cs =>
      let name := cs.takeWhile (· != '=')
      r.flag name (if name.length < cs.length then some (cs.drop (name.length + 1)) else none)
    | '-' :: c :: _ => if c = 'h' then r.help else .error .unknown
    | _ => r.value argument

end Reader

def ofArguments (arguments : List String) : Except Problem Progress := do
  let r ← arguments.foldlM Reader.step {}
  return (← r.resolve).progress

def withEnvironment (environment : List (String × String)) (p : Progress) : Except Problem Progress :=
  Key.all.foldlM (fun p key =>
    if p.keys.contains key then .ok p
    else match environment.lookup key.environmentName with
      | some value => p.set key value
      | none => .ok p) p

def read (arguments : List String) (environment : List (String × String)) : Except Problem Settings := do
  return (← withEnvironment environment (← ofArguments arguments)).settings

end Settings

end Passbook
