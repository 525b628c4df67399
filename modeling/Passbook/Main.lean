import Passbook.Service.Basic
import Passbook.Settings.CommandLine
import Passbook.Work.Timeline
import Std.Time.DateTime
/-!
The command line. Requests come from standard input, one a line: a method, a target, and a JSON body if there is one.
Each response is printed as its status and its body, and the log goes to standard error.
-/
namespace Passbook.Console

def usage : String :=
  "usage: passbook [--bind ADDRESS] [--request-timeout-ms MS] [--log-level LEVEL]"

def complaint : Settings.Problem → String
  | .badValue => "a value cannot be read"
  | .missingValue => "a value is missing"
  | .repeated => "a flag is given twice"
  | .unknown => "an argument is not known"
  | .unneededValue => "a flag takes no value"
  | .helpWanted => usage

def request? (line : String) : Option Http.Request := do
  let cs := Text.trim line.toList
  let method := cs.takeWhile (· != ' ')
  let rest := (cs.drop method.length).dropWhile (· == ' ')
  let target := rest.takeWhile (· != ' ')
  let body := (rest.drop target.length).dropWhile (· == ' ')
  let target ← Http.Target.read (String.ofList target)
  return {
    method := .ofName (String.ofList method)
    target
    contentType := some "application/json"
    body := Utf8.encode (String.ofList body) }

def eventLine (e : Event) : String :=
  let level := match e.severity with
    | .debug => "DEBUG "
    | .warn => "WARN "
  level ++ e.message ++ String.join (e.fields.map fun f => " " ++ f.1 ++ "=" ++ f.2)

def isLogged (level : String) (e : Event) : Bool := e.severity == .warn || level == "debug" || level == "trace"

def responseLine (r : Http.Response) : String := toString r.status ++ (if r.body.isEmpty then "" else " " ++ r.body)

def randomUuid : IO Uuid := do
  let bytes ← IO.getRandomBytes 16
  return .ofRandom ((Uuid.ofBytes? bytes.data.toList).getD default)

def wallClock : IO Instant := do
  let nanos := (← Std.Time.Timestamp.now).toNanosecondsSinceUnixEpoch.val
  return (Instant.of? (nanos / Instant.second) (nanos % Instant.second).toNat).getD default

def mint : IO Minted := do
  return ⟨⟨← randomUuid⟩, ⟨← randomUuid⟩, ← wallClock⟩

abbrev World := Timeline Store Http.Response

def serveOne (service : Service Store) (level line : String) (w : World) : IO World := do
  match request? line with
  | none =>
    IO.println "400"
    return w
  | some request =>
    let (base, w) := (w.setNow (← IO.monoMsNow)).newSignal
    let (response, w) := w.perform (service.respond (← mint) (service.signal base w.moment) request)
    let (events, w) := w.takeEvents
    for e in events.filter (isLogged level) do
      IO.eprintln (eventLine e)
    IO.println ((response.map responseLine).getD "504")
    return w

partial def serve (service : Service Store) (level : String) (w : World) : IO Unit := do
  let line ← (← IO.getStdin).getLine
  if line.isEmpty then return
  let w ← if (Text.trim line.toList).isEmpty then pure w else serveOne service level line w
  serve service level w

def environment : IO (List (String × String)) :=
  Settings.Key.all.filterMapM fun k => do
    return (← IO.getEnv k.environmentName).map (k.environmentName, ·)

def run (arguments : List String) : IO UInt32 := do
  match Settings.read arguments (← environment) with
  | .error .helpWanted =>
    IO.println usage
    return 0
  | .error p =>
    IO.eprintln (complaint p)
    return 2
  | .ok settings =>
    serve { repository := Store.repository, timeout := settings.timeout? } settings.logLevel { state := {} }
    return 0

end Passbook.Console

def main (arguments : List String) : IO UInt32 := Passbook.Console.run arguments
