import Tether.Relay.Pipe

/-!
Copies against scripts. A scripted stream answers each attempt to read or write as its script says;
behind the script a read waits for ever and a write takes everything. A stream that broke somebody
breaks everybody who uses it afterwards.

The two copies of a relay share a token. The first one to end cancels it, and the other one then
chooses, before each attempt, between the token and what its stream has ready. Nothing says how such
a race goes, so a relay is taken over every row of choices (`Course`).
-/

namespace Tether.Relay

open Tether.Net

/-! ## Streams -/

/-- How a scripted stream answers when it is shut down. -/
inductive ShutdownOutcome
  | done
  | failed (fault : Fault)
  | waits
  deriving DecidableEq, Repr

/-- What the copy that writes into a stream asks of it. -/
inductive SinkCall
  /-- An attempt to write, by the bytes that were taken. -/
  | write (took : List UInt8)
  | shutdown
  deriving DecidableEq, Repr

/-- The bytes that a stream took in a call. -/
def SinkCall.bytes : SinkCall → List UInt8
  | .write took => took
  | .shutdown => []

/-- A scripted stream, with the calls made to it as a sink, in order. -/
structure Script where
  reads : List ReadOutcome
  writes : List WriteOutcome
  onShutdown : ShutdownOutcome
  calls : List SinkCall := []
  broken : Bool := false
  deriving DecidableEq, Repr

/-- What was written into a stream. -/
def Script.written (s : Script) : List UInt8 := s.calls.flatMap (·.bytes)

/-- How often a stream was shut down. -/
def Script.shutdowns (s : Script) : Nat := s.calls.count .shutdown

/-- Bytes cut into chunks of a size, none of which is empty. -/
def chunks (size : Nat) (bs : List UInt8) : List (List UInt8) :=
  if _h : bs = [] ∨ size = 0 then []
  else bs.take size :: chunks size (bs.drop size)
termination_by bs.length
decreasing_by
  have : 0 < bs.length := List.length_pos_iff.2 fun h => _h (Or.inl h)
  simp only [List.length_drop]
  omega

/-- The outcomes of the reads that a reader with a buffer of limited size makes. -/
def ReadOutcome.split : ReadOutcome → List ReadOutcome
  | .bytes [] => [.bytes []]
  | .bytes bs => (chunks chunkSize bs).map .bytes
  | r => [r]

/-! ## The token -/

/-- The token on which the copies of a relay end, and how the races go that a copy runs against it
once it is cancelled: whether what a stream has ready comes first. Behind these races the token
does. -/
structure Token where
  cancelled : Bool
  races : List Bool
  deriving DecidableEq, Repr

namespace Token

/-- Cancels a token, perhaps once more. -/
def cancel (t : Token) : Token := { t with cancelled := true }

/-- A copy is about to make an attempt: whether it comes to that, and the token behind the choice.
A token that is not cancelled is in nobody's way. -/
def race (t : Token) : Bool × Token :=
  if t.cancelled then
    match t.races with
    | [] => (false, t)
    | first :: races => (first, { t with races := races })
  else (true, t)

end Token

/-! ## One copy -/

/-- The outcomes of the reads of a stream, one after the other. -/
def Script.offers (s : Script) : List ReadOutcome :=
  if s.broken then [.crashes] else s.reads.flatMap (·.split)

/-- Writes what is left of a chunk, attempt after attempt: the attempts left in the script, what each
attempt took, and where the copy stands. -/
def Copy.writeOn (c : Copy) (left : List UInt8) (size : Nat) :
    List WriteOutcome → List WriteOutcome × List (List UInt8) × Copy
  | [] => ([], [left], c.onWrite left size (.took left.length))
  | .took n :: rest =>
    if n = 0 ∨ left.length ≤ n then (rest, [left.take n], c.onWrite left size (.took n))
    else
      let (rest, took, c) := Copy.writeOn c (left.drop n) size rest
      (rest, left.take n :: took, c)
  | .failed fault :: rest =>
    if fault.isInterrupted then
      let (rest, took, c) := Copy.writeOn c left size rest
      (rest, [] :: took, c)
    else (rest, [[]], c.onWrite left size (.failed fault))
  | .waits :: rest => (.waits :: rest, [[]], { c with stage := .writing left size })
  | .crashes :: rest => (rest, [[]], c.onWrite left size .crashes)

/-- Where the loop of a copy between scripted streams has come to. -/
structure CopyEnd where
  copy : Copy
  /-- The attempts left in the script of the sink. -/
  writes : List WriteOutcome
  /-- What each attempt to write took. -/
  took : List (List UInt8)
  /-- The source broke the copy. -/
  brokeOnRead : Bool
  token : Token

/-- Copies, read after read, until the copy ends, breaks, waits or loses a race. A sink that is
broken breaks the copy at its first write. -/
def Copy.copyOn (c : Copy) (sinkBroken : Bool) (t : Token) (writes : List WriteOutcome) :
    List ReadOutcome → CopyEnd
  | [] => ⟨c, writes, [], false, t⟩
  | r :: rest =>
    match t.race with
    | (false, t) => ⟨c, writes, [], false, t⟩
    | (true, t) =>
      match c.onRead r with
      | ⟨.writing left size, total⟩ =>
        match t.race with
        | (false, t) => ⟨⟨.writing left size, total⟩, writes, [], false, t⟩
        | (true, t) =>
          if sinkBroken then ⟨⟨.crashed, total⟩, writes, [], false, t⟩
          else
            match Copy.writeOn ⟨.writing left size, total⟩ left size writes with
            | (writes, took, ⟨.reading, total⟩) =>
              let e := Copy.copyOn ⟨.reading, total⟩ sinkBroken t writes rest
              { e with took := took ++ e.took }
            | (writes, took, c) => ⟨c, writes, took, false, t⟩
      | ⟨.crashed, total⟩ => ⟨⟨.crashed, total⟩, writes, [], true, t⟩
      | c => ⟨c, writes, [], false, t⟩

/-- A copy at work between two scripted streams. -/
structure CopyTask where
  copy : Copy
  source : Script
  sink : Script
  token : Token
  /-- Whoever waits for the copy goes on. -/
  isOver : Bool
  deriving DecidableEq, Repr

/-- The loop of a copy from one scripted stream into another. -/
def Copy.between (t : Token) (source sink : Script) : CopyTask :=
  let e := Copy.fresh.copyOn sink.broken t sink.writes source.offers
  { copy := e.copy
    source := { source with broken := source.broken || e.brokeOnRead }
    sink := { sink with writes := e.writes, calls := sink.calls ++ e.took.map .write }
    token := e.token
    isOver := false }

/-- What follows the loop. A token that is cancelled ends a copy that goes on; a copy that has ended
cancels the token and then shuts its sink down. Nobody comes back from a shutdown that waits for
ever, and a broken sink breaks the copy after all. -/
def CopyTask.conclude (x : CopyTask) : CopyTask :=
  let c := if x.token.cancelled then x.copy.cancel else x.copy
  match c.stage with
  | .ended _ =>
    if x.sink.broken then
      { x with copy := ⟨.crashed, c.total⟩, token := x.token.cancel, isOver := true }
    else
      { x with
        copy := c
        sink := { x.sink with calls := x.sink.calls ++ [.shutdown] }
        token := x.token.cancel
        isOver := x.sink.onShutdown ≠ .waits }
  | .crashed => { x with isOver := true }
  | .reading | .writing _ _ => x

/-- A whole copy, from its first read to the shutdown of its sink, or to where it waits. -/
def Copy.untilDone (t : Token) (source sink : Script) : CopyTask :=
  (Copy.between t source sink).conclude

/-! ## Both copies -/

/-- Two copies in opposite directions, of which the first one does all it can before the other one
begins: each of them, and with the first one both streams at the end. -/
def Copy.both (t : Token) (x y : Script) : CopyTask × CopyTask :=
  let a := Copy.untilDone t x y
  let b := Copy.untilDone a.token a.sink a.source
  let a' := { a with source := b.sink, sink := b.source, token := b.token }
  -- a copy that waits goes on when the other one has cancelled the token
  (if a.copy.isAlive then a'.conclude else a', b)

/-- What is left open in a relay: in which direction the copy goes first, by the end whose bytes it
carries, and how the races of the other one go. A copy that has done so much when the first one ends
is one that has won so many races. -/
structure Course where
  first : Pipe.End := .client
  races : List Bool := []
  deriving DecidableEq, Repr

/-- What a pipe between two scripted streams comes to. -/
structure ScriptedPipe where
  inbound : Script
  outbound : Script
  toLocal : Copy
  toRemote : Copy
  /-- What was moved, if the pipe has returned. -/
  stats : Option Stats
  deriving DecidableEq, Repr

/-- A pipe returns when both copies are over. -/
def ScriptedPipe.ofTasks (inbound outbound : Script) (toLocal toRemote : CopyTask) : ScriptedPipe :=
  ⟨inbound, outbound, toLocal.copy, toRemote.copy,
    if toLocal.isOver && toRemote.isOver then some (.ofCopies toLocal.copy toRemote.copy)
    else none⟩

/-- Relays between two scripted streams. -/
def relayScripts (inbound outbound : Script) (course : Course := {}) : ScriptedPipe :=
  let t : Token := ⟨false, course.races⟩
  match course.first with
  | .client =>
    let (a, b) := Copy.both t inbound outbound
    .ofTasks a.source a.sink a b
  | .service =>
    let (a, b) := Copy.both t outbound inbound
    .ofTasks a.sink a.source b a

/-- What the log says about a pipe that has returned. -/
def ScriptedPipe.entries (p : ScriptedPipe) : List Entry :=
  if p.stats.isSome then p.toLocal.endEntries "to_local" ++ p.toRemote.endEntries "to_remote"
  else []

end Tether.Relay
