import Tether.Proofs.Relay.Traffic

/-!
No byte is lost, doubled, moved past another or sent the wrong way. In each direction the bytes that
were sent are accounted for: those that the peer has read, those that wait for it, what is left of
the chunk that the copy has at hand, and those that the copy has not read yet. This holds as long as
the copy goes on; what an ended copy had not written is gone, and what the peer has read or can
still read stays a front of what was sent. Attempts of the copy, its end and all that the ends do
keep these books (`Lane.Flows`), so they hold at every moment within reach (`Reaches.flows`) and at
every settled point of a pipe in use (`Traffic.byte_integrity`).
-/

namespace Tether.Net.Channel

/-- A channel holds what it held and what it took. -/
theorem buffer_write (c : Channel) (bytes : List UInt8) :
    (c.write bytes).1.buffer = c.buffer ++ bytes.take (c.write bytes).2.count := by
  cases h : (c.write bytes).2 with
  | took n => exact buffer_write_of_took h
  | full | broken =>
    have hc : (c.write bytes).1 = c := write_unchanged (by simp [h])
    simp [hc, Written.count]

end Tether.Net.Channel

namespace Tether.Relay

open Tether.Net

namespace Lane

/-- The books of one direction: what was sent into it and what was received from it. -/
structure Flows (l : Lane) (sent received : List UInt8) : Prop where
  /-- While the copy goes on every byte is accounted for, in order. -/
  whole : l.copy.isAlive = true →
    sent = received ++ l.sink.buffer ++ l.copy.left ++ l.source.buffer
  /-- The copy has at most one chunk at hand. -/
  chunk : l.copy.left.length ≤ chunkSize
  /-- What was received and what can be received is a front of what was sent. -/
  front : received ++ l.sink.buffer <+: sent

namespace Flows

variable {l l' : Lane} {sent received : List UInt8}

theorem nil (c d : Nat) : Flows ⟨.fresh, .ofCapacity c, .ofCapacity d⟩ [] [] where
  whole _ := rfl
  chunk := Nat.zero_le _
  front := List.prefix_refl _

/-- Bytes that move on within the lane stay on the books. -/
theorem moves (h : Flows l sent received) (hm : Moves l l') : Flows l' sent received := by
  have hw : sent = received ++ l'.sink.buffer ++ l'.copy.left ++ l'.source.buffer := by
    have hflow := hm.flow
    simp only [List.append_assoc] at hflow ⊢
    rw [hflow, h.whole hm.alive.1]
    simp only [List.append_assoc]
  refine ⟨fun _ => hw, hm.chunk h.chunk, ?_⟩
  rw [hw, List.append_assoc _ l'.copy.left]
  exact List.prefix_append _ _

/-- An ended copy has nothing at hand. -/
theorem ended (h : Flows l sent received) (fault : Option Fault) :
    Flows (l.ended fault) sent received where
  whole ha := nomatch ha
  chunk := Nat.zero_le _
  front := h.front

/-- The books do not care whether bytes wait for the peer or were read by it, nor whether channels
are closed. -/
theorem congr {received' : List UInt8} (h : Flows l sent received) (hc : l'.copy = l.copy)
    (hs : l'.source.buffer = l.source.buffer)
    (hr : received' ++ l'.sink.buffer = received ++ l.sink.buffer) : Flows l' sent received' where
  whole ha := by
    rw [hr, hc, hs]
    exact h.whole (by rwa [← hc])
  chunk := by
    rw [hc]
    exact h.chunk
  front := by
    rw [hr]
    exact h.front

/-- What the source takes was sent. -/
theorem write (h : Flows l sent received) (bytes : List UInt8) :
    Flows { l with source := (l.source.write bytes).1 }
      (sent ++ bytes.take (l.source.write bytes).2.count) received where
  whole ha := by
    rw [Channel.buffer_write, ← List.append_assoc, ← h.whole ha]
  chunk := h.chunk
  front := h.front.trans (List.prefix_append _ _)

/-- What the sink gives away was received. -/
theorem drain (h : Flows l sent received) (limit : Option Nat) :
    Flows { l with sink := (l.sink.drain limit).1 } sent
      (received ++ (l.sink.drain limit).2.1) :=
  h.congr rfl rfl (by rw [List.append_assoc, Channel.drain_append])

end Flows

end Lane

namespace Traffic

open Pipe Function

/-- Both directions keep their books. -/
def Flows (t : Traffic) : Prop :=
  ∀ e, (t.pipe.lane e).Flows (t.sent e) (t.received e.other)

variable {inbound outbound : Nat} {done : List Deed} {t : Traffic}

theorem flows_fresh (inbound outbound : Nat) : (fresh inbound outbound).Flows := by
  intro e
  cases e <;> exact Lane.Flows.nil _ _

/-- A direction that is replaced by one with the same books. -/
theorem Flows.setLane {e : End} {l : Lane} (h : t.Flows)
    (hl : l.Flows (t.sent e) (t.received e.other)) :
    Flows { t with pipe := t.pipe.setLane e l } :=
  forall_setLane (P := fun x l => l.Flows (t.sent x) (t.received x.other)) hl (h e.other)

/-- Whatever the pipe does, the books are kept. -/
theorem Flows.does {d : Deed} {p : Pipe} (h : t.Flows) (hd : Does done t.pipe d p) :
    Flows { t with pipe := p } := by
  cases hd with
  | move _ hm => exact h.setLane ((h _).moves hm)
  | meet _ _ => exact h.setLane ((h _).ended _)
  | cancel _ _ _ => exact h.setLane ((h _).ended none)
  | shut _ _ _ => exact h.setLane ((h _).congr rfl rfl rfl)
  | release _ _ =>
    intro e
    simp only [Ordered.lane_release]
    exact (h e).congr rfl rfl rfl

/-- Whatever an end does, the books are kept. -/
theorem Flows.act (h : t.Flows) (e : End) (x : Act) : (t.act e x).Flows := by
  unfold Traffic.act
  split
  · exact h
  cases x with
  | write bytes =>
    refine forall_setLane (P := fun y l => l.Flows (update t.sent e _ y) (t.received y.other)) ?_ ?_
    · rw [update_self]
      exact (h e).write bytes
    · rw [update_of_ne e.other_ne]
      exact h e.other
  | read limit =>
    -- what an end reads comes out of the direction in which the opposite end sends
    refine forall_setLane (P := fun y l => l.Flows (t.sent y) (update t.received e _ y.other)) ?_ ?_
    · rw [End.other_other, update_self]
      simpa using (h e.other).drain limit
    · rw [End.other_other, update_of_ne e.other_ne]
      exact h e
  | shutdown => exact h.setLane ((h e).congr rfl rfl rfl)
  | drop =>
    have hs : Flows { t with
        pipe := t.pipe.setLane e { t.pipe.lane e with source := (t.pipe.lane e).source.close } } :=
      h.setLane ((h e).congr rfl rfl rfl)
    exact hs.setLane ((hs e.other).congr rfl rfl rfl)

/-- The books are kept at every moment within reach. -/
theorem Reaches.flows (h : Reaches inbound outbound done t) : t.Flows := by
  induction h with
  | start => exact flows_fresh inbound outbound
  | act e x _ ih => exact ih.act e x
  | deed _ hd ih => exact ih.does hd

/-- No byte of a pipe in use goes astray. -/
structure Integral (t : Traffic) : Prop where
  /-- While the pipe runs, the bytes that an end has sent are, in order, those that the opposite end
  has read, those that are buffered for it, what is left of the one chunk on its way, and those that
  are buffered for the pipe. -/
  running : t.pipe.stats = none → ∀ e,
    t.sent e = t.received e.other ++ (t.pipe.lane e).sink.buffer ++ (t.pipe.lane e).copy.left ++
        (t.pipe.lane e).source.buffer ∧
      (t.pipe.lane e).copy.left.length ≤ chunkSize
  /-- Always, what an end has read and can still read is a front of what the opposite end has
  sent. -/
  front : ∀ e, t.received e.other ++ (t.pipe.lane e).sink.buffer <+: t.sent e

theorem Reaches.integral (h : Reaches inbound outbound done t) (hset : Settled done t.pipe) :
    t.Integral where
  running hs e := ⟨(h.flows e).whole (hset.alive hs e), (h.flows e).chunk⟩
  front e := (h.flows e).front

/-- Between streams of any capacities no byte goes astray: neither behind any list of steps, nor at
any other settled point that steps and deeds can lead to in some order. -/
theorem byte_integrity (inbound outbound : Nat) :
    (∀ steps, (run inbound outbound steps).Integral) ∧
      ∀ done t, Reaches inbound outbound done t → Settled done t.pipe → t.Integral := by
  have hall (done t) (h : Reaches inbound outbound done t) (hset : Settled done t.pipe) :
      t.Integral := h.integral hset
  refine ⟨fun steps => ?_, hall⟩
  obtain ⟨done, hr, hset⟩ := reaches_run inbound outbound steps
  exact hall done _ hr hset

/-- Four writes by the client fill both streams behind a service that reads a single byte. -/
def clogged : Traffic :=
  run 2 2 [(.client, .write [1, 2, 3]), (.client, .write [3, 4]), (.client, .write [5, 6]),
    (.client, .write [7, 8]), (.service, .read (some 1))]

/-- Of six bytes one is read, two wait for the service, one is on its way and two wait for the
pipe. -/
theorem byte_integrity_clogged :
    (fresh 2 2).Integral ∧ clogged.Integral ∧ clogged.pipe.stats = none ∧
      clogged.sent .client = [1] ++ [2, 3] ++ [4] ++ [5, 6] ∧
      clogged.received .service = [1] ∧ (clogged.pipe.lane .client).sink.buffer = [2, 3] ∧
      (clogged.pipe.lane .client).copy.left = [4] ∧
      (clogged.pipe.lane .client).source.buffer = [5, 6] := by
  refine ⟨?_, ?_, ?_⟩
  · exact (byte_integrity 2 2).2 [] (fresh 2 2) .start (settled_fresh 2 2)
  · exact (byte_integrity 2 2).1 _
  · decide +kernel

end Traffic

end Tether.Relay
