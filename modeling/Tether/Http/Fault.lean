/-!
What can be wrong with a request, or with the connection that carries it.
-/

namespace Tether.Http

/-- Why a request was not understood, or a connection broke. -/
inductive Fault
  /-- The request line or a header line is not well formed. -/
  | header
  /-- The version is none of those spoken. -/
  | version
  /-- The version is 2. -/
  | versionTwo
  /-- The target is no URI. -/
  | target
  /-- The target is too long. -/
  | targetTooLong
  /-- The length of the body is no number, or is given twice. -/
  | contentLength
  /-- The coding of the body is not understood. -/
  | transferCoding
  /-- The body is coded under a version that has no codings. -/
  | transferCodingUnexpected
  /-- There are too many headers, or a length is too great. -/
  | tooLarge
  /-- The connection ended in the middle of a message. -/
  | incomplete
  /-- The other end went away while it was written to. -/
  | unwritable
  deriving DecidableEq, Repr

/-- The wording of a fault. -/
def Fault.message : Fault → String
  | .header => "invalid HTTP header parsed"
  | .version => "invalid HTTP version parsed"
  | .versionTwo => "invalid HTTP version parsed (found HTTP2 preface)"
  | .target => "invalid URI"
  | .targetTooLong => "URI too long"
  | .contentLength => "invalid content-length parsed"
  | .transferCoding => "invalid transfer-encoding parsed"
  | .transferCodingUnexpected => "unexpected transfer-encoding parsed"
  | .tooLarge => "message head is too large"
  | .incomplete => "connection closed before message completed"
  | .unwritable => "error writing a body to connection"

/-- The status line's end that answers a fault, if it is answered. -/
def Fault.status? : Fault → Option String
  | .header | .version | .target | .contentLength | .transferCoding
  | .transferCodingUnexpected => some "400 Bad Request"
  | .targetTooLong => some "414 URI Too Long"
  | .tooLarge => some "431 Request Header Fields Too Large"
  | .versionTwo | .incomplete | .unwritable => none

end Tether.Http
