import Passbook.Http.Form
import Passbook.Http.Message
/-!
The resources of the service, by path, and what may be done with them. Paths are compared as they were sent; only an
identity is decoded, later.
-/
namespace Passbook

inductive Route where
  | users
  | add (id : List UInt8)
  | balance (id : List UInt8)
  | history (id : List UInt8)
  deriving DecidableEq, Repr

namespace Route

def ofSegments : List (List UInt8) → Option Route
  | [[], root] => if root = Utf8.encode "users" then some users else none
  | [[], root, id, leaf] =>
    if root = Utf8.encode "users" then
      if leaf = Utf8.encode "add" then some (add id)
      else if leaf = Utf8.encode "balance" then some (balance id)
      else if leaf = Utf8.encode "history" then some (history id)
      else none
    else none
  | _ => none

def of? (path : List UInt8) : Option Route := ofSegments (Http.splitAt '/'.toUInt8 path)

def allows : Route → Http.Method → Bool
  | users, m | add _, m => m == .post
  | balance _, m | history _, m => m == .get || m == .head

def allowed : Route → String
  | users | add _ => "POST"
  | balance _ | history _ => "GET,HEAD"

end Route

end Passbook
