/-!
Channels: bounded buffers of bytes between a writer and a reader. A write takes what fits, a read
takes what is there. Closing a channel from either side ends it: nothing more is taken, and the
reader finds the end behind the bytes that are still buffered.
-/

namespace Tether.Net

/-- One direction of a stream. -/
structure Channel where
  capacity : Nat
  buffer : List UInt8
  closed : Bool
  deriving DecidableEq, Repr

/-- What became of a write. -/
inductive Written
  /-- The first so many bytes were taken. -/
  | took (count : Nat)
  /-- There is no room now. -/
  | full
  /-- The channel is closed. -/
  | broken
  deriving DecidableEq, Repr

/-- Where a read of all there is came to a stop. -/
inductive Stop
  /-- Nothing more is there now. -/
  | empty
  /-- Nothing more will come. -/
  | ended
  /-- The reader wanted no more. -/
  | enough
  deriving DecidableEq, Repr

namespace Channel

/-- An open channel with nothing in it. -/
def ofCapacity (capacity : Nat) : Channel := ⟨capacity, [], false⟩

/-- The number of bytes that fit. -/
def room (c : Channel) : Nat := c.capacity - c.buffer.length

/-- Offers bytes to a channel. -/
def write (c : Channel) (bytes : List UInt8) : Channel × Written :=
  if c.closed then (c, .broken)
  else if c.room = 0 then (c, .full)
  else ({ c with buffer := c.buffer ++ bytes.take c.room }, .took (min bytes.length c.room))

/-- Ends a channel. -/
def close (c : Channel) : Channel := { c with closed := true }

/-- Takes the bytes that are there, up to a number if one is given. -/
def drain (c : Channel) : Option Nat → Channel × List UInt8 × Stop
  | none => ({ c with buffer := [] }, c.buffer, if c.closed then .ended else .empty)
  | some limit =>
    if limit ≤ c.buffer.length then
      ({ c with buffer := c.buffer.drop limit }, c.buffer.take limit, .enough)
    else ({ c with buffer := [] }, c.buffer, if c.closed then .ended else .empty)

/-- A reader finds the end: the channel is closed and nothing is left in it. -/
def isOver (c : Channel) : Bool := c.closed && c.buffer.isEmpty

@[simp] theorem buffer_close (c : Channel) : c.close.buffer = c.buffer := rfl

@[simp] theorem closed_close (c : Channel) : c.close.closed = true := rfl

@[simp] theorem capacity_close (c : Channel) : c.close.capacity = c.capacity := rfl

@[simp] theorem capacity_write (c : Channel) (bytes : List UInt8) :
    (c.write bytes).1.capacity = c.capacity := by
  unfold write
  repeat' split
  all_goals rfl

@[simp] theorem closed_write (c : Channel) (bytes : List UInt8) :
    (c.write bytes).1.closed = c.closed := by
  unfold write
  repeat' split
  all_goals rfl

/-- A reader gets the front of the buffer and leaves the rest. -/
theorem drain_append (c : Channel) (limit : Option Nat) :
    (c.drain limit).2.1 ++ (c.drain limit).1.buffer = c.buffer := by
  unfold drain
  repeat' split
  all_goals simp

/-- A write keeps what is buffered and adds what it took. -/
theorem buffer_write_of_took {c : Channel} {bytes : List UInt8} {n : Nat}
    (h : (c.write bytes).2 = .took n) : (c.write bytes).1.buffer = c.buffer ++ bytes.take n := by
  unfold write at *
  repeat' split at h
  · cases h
  · cases h
  · rename_i hc hr
    cases h
    simp [hc, hr, List.take_eq_take_iff, Nat.min_comm]

end Channel

end Tether.Net
