import Tether.Http.Bytes
import Tether.Http.Fault
import Tether.Http.Target

/-!
The head of a request: method, target, version and headers. A reader of bytes that may not all have
come yet either reads its item, asks for more, or refuses. Lines end with a line feed, a carriage
return before it is allowed, and blank lines before a request are skipped.
-/

namespace Tether.Http

/-- What a reader makes of the bytes that have come. -/
inductive Read (α : Type)
  | done (item : α) (rest : List UInt8)
  | more
  | bad (fault : Fault)

namespace Read

/-- Goes on reading behind an item. -/
def andThen {α β : Type} (r : Read α) (next : α → List UInt8 → Read β) : Read β :=
  match r with
  | .done item rest => next item rest
  | .more => .more
  | .bad fault => .bad fault

end Read

/-- Skips the blank lines before a request. -/
def skipLines : List UInt8 → Read Unit
  | [] => .more
  | 13 :: 10 :: rest => skipLines rest
  | [13] => .more
  | 13 :: _ => .bad .header
  | 10 :: rest => skipLines rest
  | bs => .done () bs

/-- Reads the end of a line. -/
def readLineEnd : List UInt8 → Read Unit
  | [] => .more
  | 10 :: rest => .done () rest
  | 13 :: 10 :: rest => .done () rest
  | [13] => .more
  | _ => .bad .header

/-- Reads a word of bytes of one class and the byte that closes it. -/
def readWordTo (isPart : UInt8 → Bool) (close : UInt8) (bs : List UInt8) : Read (List UInt8) :=
  let word := bs.takeWhile isPart
  match bs.drop word.length with
  | [] => .more
  | b :: rest => if b == close && !word.isEmpty then .done word rest else .bad .header

/-- Reads the version: whether it is 1.1, and not 1.0. -/
def readVersion (bs : List UInt8) : Read Bool :=
  if 8 ≤ bs.length then
    if bs.take 8 = bytesOf "HTTP/1.1" then .done true (bs.drop 8)
    else if bs.take 8 = bytesOf "HTTP/1.0" then .done false (bs.drop 8)
    else .bad .version
  else if bs = (bytesOf "HTTP/1.").take bs.length then .more
  else .bad .version

/-- A header: its name in small letters, and its value. -/
structure Header where
  name : List UInt8
  value : List UInt8
  deriving DecidableEq, Repr

/-- Reads one header line. -/
def readHeader (bs : List UInt8) : Read Header :=
  (readWordTo isToken (byte ':') bs).andThen fun name rest =>
    let rest := rest.dropWhile isSpace
    let value := rest.takeWhile isValue
    (readLineEnd (rest.drop value.length)).andThen fun _ rest =>
      .done ⟨name.map lower, dropLastSpaces value⟩ rest

/-- Reads the header lines and the blank line behind them; there may be only so many. -/
def readHeaders (slots : Nat) (bs : List UInt8) : Read (List Header) :=
  match bs with
  | [] => .more
  | b :: _ =>
    if b == 13 || b == 10 then (readLineEnd bs).andThen fun _ rest => .done [] rest
    else
      match slots with
      | 0 => .bad .tooLarge
      | slots + 1 =>
        (readHeader bs).andThen fun header rest =>
          (readHeaders slots rest).andThen fun headers rest => .done (header :: headers) rest

/-- The most headers a request may have. -/
def maxHeaders : Nat := 100

/-- The head of a request. -/
structure Head where
  method : List UInt8
  target : List UInt8
  isLatest : Bool
  headers : List Header
  deriving DecidableEq, Repr

/-- A byte that ends no target. -/
def isTargetByte (b : UInt8) : Bool := 33 ≤ b && b ≠ 127

/-- Reads the head of a request. -/
def readHead (bs : List UInt8) : Read Head :=
  (skipLines bs).andThen fun _ bs =>
  (readWordTo isToken 32 bs).andThen fun method bs =>
  (readWordTo isTargetByte 32 bs).andThen fun target bs =>
  (readVersion bs).andThen fun isLatest bs =>
  (readLineEnd bs).andThen fun _ bs =>
  (readHeaders maxHeaders bs).andThen fun headers bs =>
    if maxTarget < target.length then .bad .targetTooLong
    else if !isTarget target then .bad .target
    else .done ⟨method, target, isLatest, headers⟩ bs

end Tether.Http
