import Tether.Http.Bytes

/-!
Bodies in chunks. One look at the bytes that have come finds the next piece of a chunk, the end of
the body, an end with trailers, a fault, or nothing yet.
-/

namespace Tether.Http

/-- Where in a chunked body the reader stands. -/
inductive ChunkPlace
  /-- Before the size of a chunk. -/
  | size
  /-- Before this many bytes of a chunk. -/
  | bytes (count : Nat)
  /-- Behind the bytes of a chunk. -/
  | lineEnd
  deriving DecidableEq, Repr

/-- What a look finds. -/
inductive ChunkLook
  /-- Bytes of a chunk; the reader stands at a new place before the rest. -/
  | piece (place : ChunkPlace) (rest : List UInt8)
  /-- The end of the body. -/
  | finished (rest : List UInt8)
  /-- The end of the body, with trailers. -/
  | trailers
  | more
  | bad
  deriving DecidableEq, Repr

/-- Looks at the bytes of a chunk. -/
def lookBytes (count : Nat) (bs : List UInt8) : ChunkLook :=
  if bs.isEmpty then .more
  else if bs.length < count then .piece (.bytes (count - bs.length)) []
  else .piece .lineEnd (bs.drop count)

/-- Looks behind the last chunk. -/
def lookLast : List UInt8 → ChunkLook
  | [] => .more
  | [13] => .more
  | 13 :: 10 :: rest => .finished rest
  | 13 :: _ => .bad
  | bs => if bs.any (· == 10) then .trailers else .more

/-- Looks at the size of a chunk. -/
def lookSize (bs : List UInt8) : ChunkLook :=
  let digits := bs.takeWhile fun b => (hexValue? b).isSome
  let count := digits.foldl (fun n b => 16 * n + (hexValue? b).getD 0) 0
  let rest := (bs.drop digits.length).dropWhile isSpace
  if digits.isEmpty then if bs.isEmpty then .more else .bad
  else if Nat.pow 2 64 ≤ count then .bad
  else
    match rest with
    | [] => .more
    | b :: _ =>
      let rest := if b == byte ';' then rest.dropWhile fun b => b ≠ 13 && b ≠ 10 else rest
      match rest with
      | [] => .more
      | [13] => .more
      | 13 :: 10 :: rest => if count = 0 then lookLast rest else lookBytes count rest
      | _ => .bad

/-- Looks once, from a place. -/
def lookChunk (place : ChunkPlace) (bs : List UInt8) : ChunkLook :=
  match place with
  | .size => lookSize bs
  | .bytes count => lookBytes count bs
  | .lineEnd =>
    match bs with
    | [] => .more
    | [13] => .more
    | 13 :: 10 :: rest => lookSize rest
    | _ => .bad

end Tether.Http
