import Mathlib.Data.List.Induction
import Mathlib.Logic.Function.Basic
import Tether.Proofs.Relay.Order

/-!
A pipe in use. Whoever dialed in and the local service write, read, shut down and go away in any
order; the pipe reacts to each of these steps and waits for the next. `Traffic.run` is such a use:
the pipe behind a list of steps, with the bytes that each end has sent and received so far.
`Traffic.Reaches` is what any order of steps and of the pipe's own deeds can lead to, whichever copy
gets to act first and wherever the ends come in between. Every run is within reach and settled:
`Traffic.reaches_run`.
-/

namespace Tether.Net

/-- The number of bytes that were taken. -/
def Written.count : Written → Nat
  | .took n => n
  | .full | .broken => 0

end Tether.Net

namespace Tether.Relay

open Tether.Net

/-- What an end of a pipe can do. -/
inductive Act
  | write (bytes : List UInt8)
  /-- Read all there is, or up to a number of bytes. -/
  | read (limit : Option Nat)
  | shutdown
  | drop
  deriving DecidableEq, Repr

/-- A pipe in use, with what its ends have done so far. -/
structure Traffic where
  pipe : Pipe
  /-- The bytes of an end that its stream took. -/
  sent : Pipe.End → List UInt8
  /-- The bytes that an end has read. -/
  received : Pipe.End → List UInt8
  /-- The end writes no more: it has shut down or gone away. -/
  quiet : Pipe.End → Bool
  /-- The end has gone away, and can do nothing more. -/
  gone : Pipe.End → Bool

namespace Traffic

open Pipe Function

/-- A pipe between two streams of these capacities, of which no use was made yet. -/
def fresh (inbound outbound : Nat) : Traffic :=
  ⟨.ofCapacities inbound outbound, fun _ => [], fun _ => [], fun _ => false, fun _ => false⟩

/-- An end takes a step, and the pipe reacts to it. -/
def perform (t : Traffic) (e : End) (x : Act) : Traffic :=
  if t.gone e then t
  else
    match x with
    | .write bytes =>
      { t with
        pipe := (t.pipe.write e bytes).1
        sent := update t.sent e (t.sent e ++ bytes.take (t.pipe.write e bytes).2.count) }
    | .read limit =>
      { t with
        pipe := (t.pipe.read e limit).1
        received := update t.received e (t.received e ++ (t.pipe.read e limit).2.1) }
    | .shutdown => { t with pipe := t.pipe.shutdown e, quiet := update t.quiet e true }
    | .drop =>
      { t with
        pipe := t.pipe.drop e, quiet := update t.quiet e true, gone := update t.gone e true }

/-- A pipe between two streams of these capacities, behind a list of steps. -/
def run (inbound outbound : Nat) (steps : List (End × Act)) : Traffic :=
  steps.foldl (fun t x => t.perform x.1 x.2) (fresh inbound outbound)

/-- An end takes a step, and the pipe has not reacted to it yet. -/
def act (t : Traffic) (e : End) (x : Act) : Traffic :=
  if t.gone e then t
  else
    match x with
    | .write bytes =>
      let w := (t.pipe.lane e).source.write bytes
      { t with
        pipe := t.pipe.setLane e { t.pipe.lane e with source := w.1 }
        sent := update t.sent e (t.sent e ++ bytes.take w.2.count) }
    | .read limit =>
      let r := (t.pipe.lane e.other).sink.drain limit
      { t with
        pipe := t.pipe.setLane e.other { t.pipe.lane e.other with sink := r.1 }
        received := update t.received e (t.received e ++ r.2.1) }
    | .shutdown =>
      { t with
        pipe := t.pipe.setLane e { t.pipe.lane e with source := (t.pipe.lane e).source.close }
        quiet := update t.quiet e true }
    | .drop =>
      let p := t.pipe.setLane e { t.pipe.lane e with source := (t.pipe.lane e).source.close }
      { t with
        pipe := p.setLane e.other { p.lane e.other with sink := (p.lane e.other).sink.close }
        quiet := update t.quiet e true, gone := update t.gone e true }

/-- The pipe does all it can. -/
def settle (t : Traffic) : Traffic := { t with pipe := t.pipe.settle }

/-- A step is what the end does to its stream, and all that the pipe does because of it. -/
theorem perform_eq (t : Traffic) (e : End) (x : Act) :
    t.perform e x = if t.gone e then t else (t.act e x).settle := by
  unfold perform act
  split
  · rfl
  · cases x <;> cases e <;> rfl

/-- What can come of a pipe by the steps of its ends and by its own deeds. -/
inductive Reaches (inbound outbound : Nat) : List Deed → Traffic → Prop
  | start : Reaches inbound outbound [] (fresh inbound outbound)
  | act {done : List Deed} {t : Traffic} (e : End) (x : Act) :
      Reaches inbound outbound done t → Reaches inbound outbound done (t.act e x)
  | deed {done : List Deed} {t : Traffic} {d : Deed} {p : Pipe} :
      Reaches inbound outbound done t → Does done t.pipe d p →
      Reaches inbound outbound (done ++ [d]) { t with pipe := p }

variable {inbound outbound : Nat} {done : List Deed} {t : Traffic}

theorem Reaches.row {done' : List Deed} {p : Pipe} (h : Reaches inbound outbound done t)
    (hr : Row done t.pipe done' p) : Reaches inbound outbound done' { t with pipe := p } := by
  induction hr with
  | refl => exact h
  | tail _ hd ih => exact ih.deed hd

/-! ## Steps and the order of deeds -/

@[simp] theorem stats_act (t : Traffic) (e : End) (x : Act) :
    (t.act e x).pipe.stats = t.pipe.stats := by
  unfold act
  split
  · rfl
  · cases x <;> simp

/-- A step changes no copy and opens no channel. -/
theorem lane_act (t : Traffic) (e : End) (x : Act) (y : End) :
    ((t.act e x).pipe.lane y).copy = (t.pipe.lane y).copy ∧
      (t.pipe.lane y).KeepsClosed ((t.act e x).pipe.lane y) := by
  unfold act Lane.KeepsClosed
  split
  · exact ⟨rfl, id, id⟩
  · obtain rfl | rfl := e.eq_or_eq_other y
    · cases x <;> simp
    · cases x <;> simp

/-- Whatever the ends do, the deeds of the pipe keep to their order. -/
theorem Reaches.ordered (h : Reaches inbound outbound done t) : Ordered done t.pipe := by
  induction h with
  | start => exact .nil inbound outbound
  | act e x _ ih => exact ih.outside (stats_act _ e x) (lane_act _ e x)
  | deed _ hd ih => exact ih.does hd

/-! ## Runs -/

/-- A settled pipe that reacts to a step is settled again. -/
theorem Reaches.react (h : Reaches inbound outbound done t) (hset : Settled done t.pipe) (e : End)
    (x : Act) : ∃ done', Reaches inbound outbound done' (t.act e x).settle ∧
      Settled done' (t.act e x).settle.pipe := by
  have hr := h.act e x
  by_cases hs : t.pipe.stats = none
  · have hs' : (t.act e x).pipe.stats = none := by rw [stats_act, hs]
    have hn (y : End) : .shut y ∉ done := h.ordered.not_shut (hset.alive hs y)
    obtain ⟨done', hrow, hset'⟩ := settle_row hs' hn
    exact ⟨done', hr.row hrow, hset'⟩
  · -- the pipe has returned, and does not react
    have hs' : (t.act e x).pipe.stats ≠ none := by rwa [stats_act]
    have he : (t.act e x).settle = t.act e x := by
      unfold settle
      rw [settle_of_returned hs']
    rw [he]
    exact ⟨done, hr, settled_of_returned hs'⟩

theorem run_concat (inbound outbound : Nat) (steps : List (End × Act)) (e : End) (x : Act) :
    run inbound outbound (steps ++ [(e, x)]) = (run inbound outbound steps).perform e x := by
  simp [run]

/-- A fresh pipe waits for its ends. -/
theorem settled_fresh (inbound outbound : Nat) : Settled [] (fresh inbound outbound).pipe := by
  have hset (e : End) : ((fresh inbound outbound).pipe.lane e).Stuck := by
    cases e <;> exact Lane.stuck_reading rfl rfl
  intro d p hd
  cases hd with
  | move _ hm => exact (hset _).1 _ hm
  | meet _ hm => exact (hset _).2 _ hm
  | @cancel e _ _ ho => cases e <;> cases ho
  | @shut e _ ho _ => cases e <;> cases ho
  | release _ hd => exact List.not_mem_nil (hd .client)

/-- The pipe behind every list of steps is within reach, and settled. -/
theorem reaches_run (inbound outbound : Nat) (steps : List (End × Act)) :
    ∃ done, Reaches inbound outbound done (run inbound outbound steps) ∧
      Settled done (run inbound outbound steps).pipe := by
  -- on the last step: before it the pipe was at rest, so no channel of a pipe that runs is shut
  induction steps using List.reverseRecOn with
  | nil => exact ⟨[], .start, settled_fresh inbound outbound⟩
  | append_singleton steps x ih =>
    obtain ⟨done, hr, hset⟩ := ih
    obtain ⟨e, x⟩ := x
    rw [run_concat, perform_eq]
    split
    · exact ⟨done, hr, hset⟩
    · exact hr.react hset e x

end Traffic

end Tether.Relay
