import Tether.Log
import Tether.Net.Channel
import Tether.Net.Fault
import Tether.Relay.Stats

/-!
Copying in one direction. A copy reads a chunk, writes all of it, counts it, and reads again; it
never reads while a part of the last chunk is unwritten. It ends when its source ends, when reading
or writing fails, or when it is cancelled, and it keeps what it has counted whatever ended it.
-/

namespace Tether.Relay

open Tether.Net

/-- The most bytes read at a time. -/
def chunkSize : Nat := 16384

/-- What an attempt to read brings. -/
inductive ReadOutcome
  /-- Some bytes; none at all mean the end. -/
  | bytes (bytes : List UInt8)
  | failed (fault : Fault)
  /-- Nothing, and nothing will come. -/
  | waits
  /-- The stream breaks whoever uses it. -/
  | crashes
  deriving DecidableEq, Repr

/-- What an attempt to write brings. -/
inductive WriteOutcome
  | took (count : Nat)
  | failed (fault : Fault)
  | waits
  | crashes
  deriving DecidableEq, Repr

/-- What a copy is doing. -/
inductive CopyStage
  /-- It reads the next chunk. -/
  | reading
  /-- It writes what is left of a chunk of so many bytes. -/
  | writing (left : List UInt8) (size : Nat)
  /-- It has ended, perhaps because of a fault. -/
  | ended (fault : Option Fault)
  /-- It broke. -/
  | crashed
  deriving DecidableEq, Repr

/-- A copy in one direction, and the bytes of the chunks that it has written completely. -/
structure Copy where
  stage : CopyStage
  total : Nat
  deriving DecidableEq, Repr

namespace Copy

/-- A copy that has done nothing yet. -/
def fresh : Copy := ⟨.reading, 0⟩

/-- The copy still goes on. -/
def isAlive (c : Copy) : Bool :=
  match c.stage with
  | .reading | .writing _ _ => true
  | .ended _ | .crashed => false

/-- Takes the outcome of a read. -/
def onRead (c : Copy) : ReadOutcome → Copy
  | .bytes [] => { c with stage := .ended none }
  | .bytes (b :: bs) => { c with stage := .writing (b :: bs) (b :: bs).length }
  | .failed fault => { c with stage := .ended (some fault) }
  | .waits => c
  | .crashes => { c with stage := .crashed }

/-- Takes the outcome of a write of what is left of a chunk. A writer that takes nothing has failed;
an interrupted write is made again. -/
def onWrite (c : Copy) (left : List UInt8) (size : Nat) : WriteOutcome → Copy
  | .took n =>
    if left.length ≤ n then ⟨.reading, c.total + size⟩
    else if n = 0 then { c with stage := .ended (some .writeZero) }
    else { c with stage := .writing (left.drop n) size }
  | .failed fault => if fault.isInterrupted then c else { c with stage := .ended (some fault) }
  | .waits => c
  | .crashes => { c with stage := .crashed }

/-- Ends a copy that still goes on. -/
def cancel (c : Copy) : Copy := if c.isAlive then { c with stage := .ended none } else c

/-- The bytes that a copy is reported to have moved. -/
def counted (c : Copy) : Nat := if c.stage = .crashed then 0 else c.total

/-- What the log says about the end of a copy. -/
def endEntries (direction : String) (c : Copy) : List Entry :=
  match c.stage with
  | .ended (some fault) => [⟨.debug, .relay, "Relay direction ended with error", [
      ("direction", direction), ("bytes", toString c.total), ("error", fault.text)]⟩]
  | _ => []

/-- Copies from one channel into another until nothing more can be done. -/
def run (c : Copy) (source sink : Channel) : Copy × Channel × Channel :=
  match c with
  | ⟨.reading, total⟩ =>
    match _h : source.buffer with
    | [] => (if source.closed then ⟨.ended none, total⟩ else c, source, sink)
    | b :: bs =>
      run ⟨.writing ((b :: bs).take chunkSize) (min chunkSize (b :: bs).length), total⟩
        { source with buffer := (b :: bs).drop chunkSize } sink
  | ⟨.writing left size, total⟩ =>
    match sink.write left with
    | (sink, .took n) =>
      if left.length ≤ n then run ⟨.reading, total + size⟩ source sink
      else (⟨.writing (left.drop n) size, total⟩, source, sink)
    | (sink, .full) => (c, source, sink)
    | (sink, .broken) => (⟨.ended (some .brokenPipe), total⟩, source, sink)
  | ⟨.ended _, _⟩ | ⟨.crashed, _⟩ => (c, source, sink)
termination_by
  2 * source.buffer.length + (match c.stage with | .writing _ _ => 1 | _ => 0)
decreasing_by
  · simp only [_h, List.length_drop, List.length_cons, chunkSize]
    omega
  · omega

end Copy

/-- What the two copies of a relay have moved. -/
def Stats.ofCopies (toLocal toRemote : Copy) : Stats := ⟨toLocal.counted, toRemote.counted⟩

end Tether.Relay
