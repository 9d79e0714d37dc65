import Tether.Http.Chunk
import Tether.Http.Request

/-!
The liveness responder. It answers every request of a connection, whatever it asks for, with one
fixed page, as soon as the head of the request has come. It never waits for a body: what has come
of it is passed over, and when the body's end is not found at that, the connection closes behind
the answer. A request that is not understood is answered by its fault and closes the connection.
-/

namespace Tether.Http

/-- The page that tells that the node is alive. -/
def livenessPage : String := "Ok\n"

/-- A responder at work on one connection: the bytes not yet understood, and whether the last
request was of version 1.1. -/
structure Responder where
  input : List UInt8 := []
  isLatest : Bool := true
  deriving DecidableEq, Repr

/-- How a responder goes on. -/
inductive Next
  /-- It waits for more. -/
  | waits (responder : Responder)
  /-- It closes the connection. -/
  | closes (fault : Option Fault)
  deriving DecidableEq, Repr

/-- The version at the front of an answer. -/
def versionText (isLatest : Bool) : String := if isLatest then "HTTP/1.1 " else "HTTP/1.0 "

/-- The line about the connection: it stands where the version's own rule is broken. -/
def connectionLine (isLatest keepAlive : Bool) : String :=
  match isLatest, keepAlive with
  | true, false => "connection: close\r\n"
  | false, true => "connection: keep-alive\r\n"
  | _, _ => ""

/-- The answer to a request. The date is the transport's to add. -/
def Request.answer (r : Request) : String :=
  let isConnect := r.method = bytesOf "CONNECT"
  let isHead := r.method = bytesOf "HEAD"
  versionText r.isLatest ++ "200 OK\r\ncontent-type: text/plain; charset=utf-8\r\n" ++
    connectionLine r.isLatest r.keepAlive ++
    (if isConnect then "" else "content-length: " ++ toString livenessPage.length ++ "\r\n") ++
    "\r\n" ++ (if isConnect || isHead then "" else livenessPage)

/-- The answer to a fault. -/
def Fault.answer (f : Fault) (isLatest : Bool) : String :=
  match f.status? with
  | some status =>
    versionText isLatest ++ status ++ "\r\n" ++ connectionLine isLatest false ++
      "content-length: 0\r\n\r\n"
  | none => ""

/-- What becomes of the body of a request. -/
inductive BodyFate
  /-- It is passed over; these bytes follow it. `early` tells that its end was found before the
  answer was written. -/
  | passed (early : Bool) (rest : List UInt8)
  /-- Its end is not found; the connection closes behind the answer. -/
  | cut
  deriving DecidableEq, Repr

/-- Passes over the body of a request, as far as it has come: one look before the answer, unless the
client waits for a sign, and one behind it. -/
def Request.bodyFate (r : Request) (bs : List UInt8) : BodyFate :=
  match r.framing with
  | .none => .passed true bs
  | .length n => if n ≤ bs.length then .passed (!r.expects) (bs.drop n) else .cut
  | .chunked =>
    let last (place : ChunkPlace) (bs : List UInt8) : BodyFate :=
      match lookChunk place bs with
      | .finished rest => .passed false rest
      | _ => .cut
    if r.expects then last .size bs
    else
      match lookChunk .size bs with
      | .finished rest => .passed true rest
      | .piece place rest => last place rest
      | _ => .cut

/-- The bytes that open a connection of version 2. -/
def versionTwoPreface : List UInt8 := bytesOf "PRI * HTTP/2.0\r\n\r\nSM\r\n\r\n"

/-- Takes the bytes that have come so far, and whether none will follow; writes the answers, and
tells how it goes on. -/
def Responder.run (r : Responder) (ended : Bool) : List UInt8 × Next :=
  match readHead r.input with
  | .more =>
    if !ended then ([], .waits r)
    else if (r.input.dropWhile fun b => b == 13 || b == 10).isEmpty then ([], .closes none)
    else ([], .closes (some .incomplete))
  | .bad fault =>
    if r.input.take 24 = versionTwoPreface then ([], .closes (some .versionTwo))
    else (bytesOf (fault.answer r.isLatest), .closes (some fault))
  | .done head rest =>
    match Request.ofHead head with
    | .error fault => (bytesOf (fault.answer r.isLatest), .closes (some fault))
    | .ok request =>
      match request.bodyFate rest with
      | .cut => (bytesOf request.answer, .closes none)
      | .passed early rest =>
        if early && rest.isEmpty && ended then ([], .closes (some .incomplete))
        else if !request.keepAlive || request.method = bytesOf "CONNECT" then
          (bytesOf request.answer, .closes none)
        else if rest.length < r.input.length then
          let (out, next) := Responder.run ⟨rest, request.isLatest⟩ ended
          (bytesOf request.answer ++ out, next)
        else (bytesOf request.answer, .waits ⟨rest, request.isLatest⟩)
termination_by r.input.length

end Tether.Http
