import Tether.Control.Key
import Tether.Json.Value

/-!
The response to a request for a key. A status of success must come with a JSON body that holds the
key; any other status is a refusal, explained by the body or, where that is blank, by the meaning of
the status.
-/

namespace Tether.Control

open Tether.Json Tether.Text

/-- The meaning of a status, where it has one. -/
def statusReason? : Nat → Option String
  | 100 => some "Continue"
  | 101 => some "Switching Protocols"
  | 102 => some "Processing"
  | 200 => some "OK"
  | 201 => some "Created"
  | 202 => some "Accepted"
  | 203 => some "Non Authoritative Information"
  | 204 => some "No Content"
  | 205 => some "Reset Content"
  | 206 => some "Partial Content"
  | 207 => some "Multi-Status"
  | 208 => some "Already Reported"
  | 226 => some "IM Used"
  | 300 => some "Multiple Choices"
  | 301 => some "Moved Permanently"
  | 302 => some "Found"
  | 303 => some "See Other"
  | 304 => some "Not Modified"
  | 305 => some "Use Proxy"
  | 307 => some "Temporary Redirect"
  | 308 => some "Permanent Redirect"
  | 400 => some "Bad Request"
  | 401 => some "Unauthorized"
  | 402 => some "Payment Required"
  | 403 => some "Forbidden"
  | 404 => some "Not Found"
  | 405 => some "Method Not Allowed"
  | 406 => some "Not Acceptable"
  | 407 => some "Proxy Authentication Required"
  | 408 => some "Request Timeout"
  | 409 => some "Conflict"
  | 410 => some "Gone"
  | 411 => some "Length Required"
  | 412 => some "Precondition Failed"
  | 413 => some "Payload Too Large"
  | 414 => some "URI Too Long"
  | 415 => some "Unsupported Media Type"
  | 416 => some "Range Not Satisfiable"
  | 417 => some "Expectation Failed"
  | 418 => some "I'm a teapot"
  | 421 => some "Misdirected Request"
  | 422 => some "Unprocessable Entity"
  | 423 => some "Locked"
  | 424 => some "Failed Dependency"
  | 426 => some "Upgrade Required"
  | 428 => some "Precondition Required"
  | 429 => some "Too Many Requests"
  | 431 => some "Request Header Fields Too Large"
  | 451 => some "Unavailable For Legal Reasons"
  | 500 => some "Internal Server Error"
  | 501 => some "Not Implemented"
  | 502 => some "Bad Gateway"
  | 503 => some "Service Unavailable"
  | 504 => some "Gateway Timeout"
  | 505 => some "HTTP Version Not Supported"
  | 506 => some "Variant Also Negotiates"
  | 507 => some "Insufficient Storage"
  | 508 => some "Loop Detected"
  | 510 => some "Not Extended"
  | 511 => some "Network Authentication Required"
  | _ => none

/-- The status tells of success. -/
def isSuccess (status : Nat) : Bool := 200 ≤ status && status < 300

/-- What a refusal says. -/
def refusalText (status : Nat) (body : String) : String :=
  if isBlank body then (statusReason? status).getD "Unknown" else trim body

/-- Why a body holds no key. -/
inductive BodyFault
  /-- It is no JSON. -/
  | json (fault : Json.Fault)
  /-- It is another kind of value than wanted. -/
  | wrongType (wanted : String)
  /-- It is a list of another length than one. -/
  | wrongLength (length : Nat)
  | missing
  | repeated
  deriving DecidableEq, Repr

/-- The wording of a fault of the body. -/
def BodyFault.message : BodyFault → String
  | .json fault => fault.message
  | .wrongType wanted => "invalid type, expected " ++ wanted
  | .wrongLength length =>
    "invalid length " ++ toString length ++ ", expected struct NetworkKeyResponse with 1 element"
  | .missing => "missing field `key`"
  | .repeated => "duplicate field `key`"

/-- The text of a string. -/
def textOf : Value → Except BodyFault String
  | .string (some s) => .ok s
  | _ => .error (.wrongType "a string")

/-- The text of the key that a body holds: the member `key` of an object, or the one item of a list.
Other members are of no account, but all names must be texts. -/
def keyText : Value → Except BodyFault String
  | .array [item] => textOf item
  | .array items => .error (.wrongLength items.length)
  | .object members =>
    if members.any fun m => m.1.isNone then .error (.wrongType "a string")
    else
      match members.filter fun m => m.1 == some "key" with
      | [] => .error .missing
      | [m] => textOf m.2
      | _ => .error .repeated
  | _ => .error (.wrongType "struct NetworkKeyResponse")

/-- Reads the text of the key out of a body. -/
def readBody (body : String) : Except BodyFault String :=
  match Json.parse body with
  | .error fault => .error (.json fault)
  | .ok value => keyText value

/-- What a response means. -/
def classify (status : Nat) (body : String) : Except Error Key :=
  if isSuccess status then
    match readBody body with
    | .ok text => Key.ofText text
    | .error fault => .error (.invalidResponse ("error decoding response body: " ++ fault.message))
  else .error (.api status (refusalText status body))

end Tether.Control
