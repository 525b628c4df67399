import Passbook.Http.Form
import Passbook.Http.MediaType
import Passbook.Service.Refusal
import Passbook.Wire.Request
/-!
What a request says, read from its path, query and body, or the refusal of what it does not say well.
-/
namespace Passbook

namespace Input

def userId (raw : List UInt8) : Except Refusal UserId :=
  match Utf8.decode? (Http.decodePercent raw) with
  | none => .error (.userId "Invalid URL: Invalid UTF-8 in \x60id\x60")
  | some text =>
    match Uuid.read text.toList with
    | .ok x => .ok ⟨x⟩
    | .error e =>
      .error (.userId ("Invalid URL: Cannot parse \x60id\x60 with value \x60" ++ text ++
        "\x60: UUID parsing failed: " ++ e.message))

def maxBody : Nat := 2097152

def isOversized (body : List UInt8) : Bool := maxBody < body.length

def newUser (body : List UInt8) : Except Refusal CreateUserRequest :=
  if isOversized body then .error .oversized
  else if body.isEmpty then .ok {}
  else (Json.decodeAll CreateUserRequest.decode body).mapError fun
    | .malformed => .body "<syntax>"
    | .unfit _ p => .body p.message

def faultMessage : Json.Fault → String
  | .malformed => "Failed to parse the request body as JSON: <syntax>"
  | .unfit path p =>
    let place := Json.Fault.renderPath path
    "Failed to deserialize the JSON body into the target type: " ++
      (if place.isEmpty then "" else place ++ ": ") ++ p.message

def deposit (contentType : Option String) (body : List UInt8) : Except Refusal AddTransactionRequest :=
  if !contentType.any Http.MediaType.isJson then
    .error (.body "Expected request with \x60Content-Type: application/json\x60")
  else if isOversized body then .error (.body Refusal.oversizedMessage)
  else (Json.decodeAll AddTransactionRequest.decode body).mapError fun fault => .body (faultMessage fault)

/-! ### Queries -/

def queryProblem (reason : String) : Refusal := .query ("Failed to deserialize query string: " ++ reason)

def queryNumber (name : String) (value : List UInt8) : Except Refusal Nat :=
  (Text.unsigned? wordLimit (value.map fun b => Char.ofNat b.toNat)).mapError fun e =>
    queryProblem (name ++ ": " ++ e.message)

def queryStep (q : HistoryQuery) (pair : List UInt8 × List UInt8) : Except Refusal HistoryQuery :=
  if pair.1 = Utf8.encode "page" then
    if q.page.isSome then .error (queryProblem (Json.Problem.duplicateField "page").message)
    else (queryNumber "page" pair.2).map fun n => { q with page := some n }
  else if pair.1 = Utf8.encode "pageSize" then
    if q.pageSize.isSome then .error (queryProblem (Json.Problem.duplicateField "pageSize").message)
    else (queryNumber "pageSize" pair.2).map fun n => { q with pageSize := some n }
  else .ok q

def historyQuery (query : Option (List UInt8)) : Except Refusal HistoryQuery :=
  (Http.formPairs (query.getD [])).foldlM queryStep ⟨none, none⟩

end Input

end Passbook
