import Tether.Net.Channel

/-!
Streams: two channels, one in each direction, between the end that dialed and the end that accepted.
Each end writes into one channel and reads from the other. An end that goes away closes both.
-/

namespace Tether.Net

/-- The ends of a stream. -/
inductive Side
  | dialer
  | acceptor
  deriving DecidableEq, Repr

/-- The end opposite. -/
def Side.other : Side → Side
  | .dialer => .acceptor
  | .acceptor => .dialer

/-- A stream, by what each end has written. -/
structure Duplex where
  fromDialer : Channel
  fromAcceptor : Channel
  deriving DecidableEq, Repr

namespace Duplex

/-- A fresh stream whose channels hold so many bytes each. -/
def ofCapacity (capacity : Nat) : Duplex := ⟨.ofCapacity capacity, .ofCapacity capacity⟩

/-- The channel that an end writes into. -/
def outOf (d : Duplex) : Side → Channel
  | .dialer => d.fromDialer
  | .acceptor => d.fromAcceptor

/-- The channel that an end reads from. -/
def into (d : Duplex) (s : Side) : Channel := d.outOf s.other

/-- Replaces the channel that an end writes into. -/
def setOutOf (d : Duplex) (s : Side) (c : Channel) : Duplex :=
  match s with
  | .dialer => { d with fromDialer := c }
  | .acceptor => { d with fromAcceptor := c }

/-- Replaces the channel that an end reads from. -/
def setInto (d : Duplex) (s : Side) (c : Channel) : Duplex := d.setOutOf s.other c

/-- An end writes. -/
def write (d : Duplex) (s : Side) (bytes : List UInt8) : Duplex × Written :=
  let (c, w) := (d.outOf s).write bytes
  (d.setOutOf s c, w)

/-- An end reads all there is, or up to a number of bytes. -/
def drain (d : Duplex) (s : Side) (limit : Option Nat) : Duplex × List UInt8 × Stop :=
  let (c, bytes, stop) := (d.into s).drain limit
  (d.setInto s c, bytes, stop)

/-- An end writes no more. -/
def shutdown (d : Duplex) (s : Side) : Duplex := d.setOutOf s (d.outOf s).close

/-- An end goes away. -/
def drop (d : Duplex) (_ : Side) : Duplex := ⟨d.fromDialer.close, d.fromAcceptor.close⟩

@[simp] theorem outOf_setOutOf (d : Duplex) (s : Side) (c : Channel) :
    (d.setOutOf s c).outOf s = c := by cases s <;> rfl

@[simp] theorem outOf_setOutOf_other (d : Duplex) (s : Side) (c : Channel) :
    (d.setOutOf s c).outOf s.other = d.outOf s.other := by cases s <;> rfl

end Duplex

end Tether.Net
