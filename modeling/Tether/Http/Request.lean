import Tether.Http.Head

/-!
What the headers of a request say about its body and about the connection.
-/

namespace Tether.Http

/-- How the body of a request is delimited. -/
inductive Framing
  | none
  | length (count : Nat)
  | chunked
  deriving DecidableEq, Repr

/-- A request, as far as the answer depends on it. -/
structure Request where
  method : List UInt8
  isLatest : Bool
  keepAlive : Bool
  framing : Framing
  /-- The client waits for a sign before it sends the body. -/
  expects : Bool
  deriving DecidableEq, Repr

/-- The value holds visible ASCII and blanks only. -/
def isPlain (value : List UInt8) : Bool := value.all fun b => b == 9 || (32 ≤ b && b < 127)

/-- The bytes without the blanks at either end. -/
def trimSpaces (bs : List UInt8) : List UInt8 := dropLastSpaces (bs.dropWhile isSpace)

/-- One of the items of a list of words, in letters of any size. -/
def hasWord (word : String) (value : List UInt8) : Bool :=
  isPlain value &&
    (splitAt (byte ',') value).any fun piece => (trimSpaces piece).map lower == bytesOf word

/-- The last item of a list of words, in letters of any size. -/
def endsWithWord (word : String) (value : List UInt8) : Bool :=
  isPlain value &&
    ((splitAt (byte ',') value).getLast?.map fun piece => (trimSpaces piece).map lower) ==
      some (bytesOf word)

/-- The number that digits alone write, below `2^64`. -/
def readLength (value : List UInt8) : Option Nat :=
  if value.isEmpty || !value.all isDigit then none
  else
    let n := value.foldl (fun n b => 10 * n + (b.toNat - (byte '0').toNat)) 0
    if n < Nat.pow 2 64 then some n else none

/-- What was gathered from the headers so far. -/
structure Gathered where
  keepAlive : Bool
  length : Option Nat := none
  coded : Option Bool := none
  framing : Framing := .none
  expects : Bool := false

/-- Adds what one header says. -/
def Gathered.add (isLatest : Bool) (g : Gathered) (h : Header) : Except Fault Gathered :=
  if h.name = bytesOf "transfer-encoding" then
    if !isLatest then .error .transferCodingUnexpected
    else if endsWithWord "chunked" h.value then
      .ok { g with coded := some true, framing := .chunked }
    else .ok { g with coded := some false }
  else if h.name = bytesOf "content-length" then
    if g.coded.isSome then .ok g
    else
      match readLength h.value, g.length with
      | none, _ => .error .contentLength
      | some n, some m => if n = m then .ok g else .error .contentLength
      | some n, none =>
        if Nat.pow 2 64 - 2 ≤ n then .error .tooLarge
        else
          .ok { g with length := some n, framing := if n = 0 then .none else .length n }
  else if h.name = bytesOf "connection" then
    .ok { g with
      keepAlive :=
        if g.keepAlive then !hasWord "close" h.value else hasWord "keep-alive" h.value }
  else if h.name = bytesOf "expect" then
    .ok { g with expects := h.value.map lower = bytesOf "100-continue" }
  else .ok g

/-- Reads the headers of a request. -/
def Request.ofHead (h : Head) : Except Fault Request := do
  let g ← h.headers.foldlM (Gathered.add h.isLatest) { keepAlive := h.isLatest }
  if g.coded = some false then .error .transferCoding
  return ⟨h.method, h.isLatest, g.keepAlive, g.framing, g.expects && h.isLatest⟩

end Tether.Http
