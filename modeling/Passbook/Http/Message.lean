import Passbook.Http.Target
import Passbook.Text.Utf8
/-!
Requests and responses.
-/
namespace Passbook.Http

inductive Method where
  | get
  | head
  | post
  | other (name : String)
  deriving DecidableEq, Repr

def Method.ofName (name : String) : Method :=
  if name = "GET" then .get else if name = "HEAD" then .head else if name = "POST" then .post else .other name

structure Request where
  method : Method := .get
  target : Target
  contentType : Option String := none
  body : List UInt8 := []
  deriving DecidableEq, Repr

structure Response where
  status : Nat
  contentType : Option String := none
  allow : Option String := none
  body : String := ""
  deriving DecidableEq, Repr

namespace Response

def json (status : Nat) (body : String) : Response where
  status := status
  contentType := some "application/json"
  body := body

def withoutBody (r : Response) : Response := { r with body := "" }

end Response

end Passbook.Http
