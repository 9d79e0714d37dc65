import Mathlib.Logic.Relation
import Tether.Relay.Pipe

/-!
One direction of a pipe. A lane is a copy with the channel it reads from and the channel it writes
into. What the copy does is cut into single attempts: those that move bytes (`Lane.Moves`) and those
that end it (`Lane.Meets`). Every attempt that moves bytes leaves less to do (`Moves.effort_lt`),
and what `Copy.run` does in one go is a row of them, up to where nothing more can be done or the
copy meets its end (`Lane.run_spec`). A copy that can do nothing more is blocked by its source or by
its sink (`Lane.Stuck.blocked`).
-/

namespace Tether.Net.Channel

/-- What a channel takes is the front of what it is offered, and there is room for it. -/
theorem write_took {c : Channel} {bytes : List UInt8} {n : Nat}
    (h : (c.write bytes).2 = .took n) :
    c.closed = false ∧ 0 < c.room ∧ n = min bytes.length c.room := by
  unfold write at h
  repeat' split at h
  · cases h
  · cases h
  · rename_i hc hr
    cases h
    exact ⟨by simpa using hc, Nat.pos_of_ne_zero hr, rfl⟩

theorem write_broken {c : Channel} {bytes : List UInt8} :
    (c.write bytes).2 = .broken ↔ c.closed = true := by
  unfold write
  repeat' split
  all_goals simp_all

theorem write_full {c : Channel} {bytes : List UInt8} :
    (c.write bytes).2 = .full ↔ c.closed = false ∧ c.room = 0 := by
  unfold write
  repeat' split
  all_goals simp_all

/-- A channel that is closed or full stays as it is. -/
theorem write_unchanged {c : Channel} {bytes : List UInt8}
    (h : ∀ n, (c.write bytes).2 ≠ .took n) : (c.write bytes).1 = c := by
  unfold write at *
  repeat' split
  · rfl
  · rfl
  · simp_all

/-- A channel that took less than it was offered is full. -/
theorem room_write {c : Channel} {bytes : List UInt8} {n : Nat}
    (h : (c.write bytes).2 = .took n) (hn : n < bytes.length) : (c.write bytes).1.room = 0 := by
  obtain ⟨-, -, he⟩ := write_took h
  unfold room
  rw [buffer_write_of_took h, capacity_write, List.length_append, List.length_take]
  unfold room at he
  omega

@[simp] theorem closed_drain (c : Channel) (limit : Option Nat) :
    (c.drain limit).1.closed = c.closed := by
  unfold drain
  repeat' split
  all_goals rfl

end Tether.Net.Channel

namespace Tether.Relay

open Tether.Net

/-- What is left of the chunk that a copy is writing. -/
def Copy.left (c : Copy) : List UInt8 :=
  match c.stage with
  | .writing left _ => left
  | _ => []

/-- One direction of a pipe: the copy, the channel it reads from and the channel it writes into. -/
structure Lane where
  copy : Copy
  source : Channel
  sink : Channel
  deriving DecidableEq, Repr

namespace Lane

/-! ## Attempts -/

/-- An attempt moves bytes: the copy reads a chunk, or the sink takes some of the chunk. -/
inductive Moves : Lane → Lane → Prop
  | read {total : Nat} {source sink : Channel} : source.buffer ≠ [] →
      Moves ⟨⟨.reading, total⟩, source, sink⟩
        ⟨Copy.onRead ⟨.reading, total⟩ (.bytes (source.buffer.take chunkSize)),
          { source with buffer := source.buffer.drop chunkSize }, sink⟩
  | write {left : List UInt8} {size total n : Nat} {source sink : Channel} :
      (sink.write left).2 = .took n →
      Moves ⟨⟨.writing left size, total⟩, source, sink⟩
        ⟨Copy.onWrite ⟨.writing left size, total⟩ left size (.took n), source,
          (sink.write left).1⟩

/-- An attempt ends the copy: its source has come to an end, or its sink is broken. -/
inductive Meets : Lane → Option Fault → Prop
  | finished {total : Nat} {source sink : Channel} :
      source.buffer = [] → source.closed = true → Meets ⟨⟨.reading, total⟩, source, sink⟩ none
  | broken {left : List UInt8} {size total : Nat} {source sink : Channel} :
      sink.closed = true → Meets ⟨⟨.writing left size, total⟩, source, sink⟩ (some .brokenPipe)

/-- The copy has ended, perhaps because of a fault. -/
def ended (l : Lane) (fault : Option Fault) : Lane :=
  { l with copy := ⟨.ended fault, l.copy.total⟩ }

/-- Nobody writes into the sink any more. -/
def shut (l : Lane) : Lane := { l with sink := l.sink.close }

/-- No attempt moves bytes or ends the copy. -/
def Stuck (l : Lane) : Prop := (∀ l', ¬Moves l l') ∧ ∀ fault, ¬Meets l fault

/-- The source has nothing now and something may still come, or the sink has no room now and may
still get some. -/
def Blocked (l : Lane) : Prop :=
  (l.source.buffer = [] ∧ l.source.closed = false) ∨ (l.sink.room = 0 ∧ l.sink.closed = false)

/-- No channel of a lane is opened on the way to another. -/
def KeepsClosed (l l' : Lane) : Prop :=
  (l.source.closed = true → l'.source.closed = true) ∧
    (l.sink.closed = true → l'.sink.closed = true)

/-- A copy that has read a chunk writes it. -/
theorem onRead_chunk {source : Channel} (h : source.buffer ≠ []) (total : Nat) :
    Copy.onRead ⟨.reading, total⟩ (.bytes (source.buffer.take chunkSize)) =
      ⟨.writing (source.buffer.take chunkSize) (source.buffer.take chunkSize).length, total⟩ := by
  cases hb : source.buffer with
  | nil => exact absurd hb h
  | cons b bs => rfl

/-- A copy whose sink took some of its chunk writes the rest of it, or reads again. -/
theorem onWrite_took {sink : Channel} {left : List UInt8} {size total n : Nat}
    (h : (sink.write left).2 = .took n) :
    Copy.onWrite ⟨.writing left size, total⟩ left size (.took n) =
      if left.length ≤ n then ⟨.reading, total + size⟩
      else ⟨.writing (left.drop n) size, total⟩ := by
  obtain ⟨-, hr, hn⟩ := Channel.write_took h
  unfold Copy.onWrite
  dsimp only
  by_cases hle : left.length ≤ n
  · rw [if_pos hle, if_pos hle]
  · rw [if_neg hle, if_neg hle, if_neg (by omega)]

/-- An attempt that moves bytes leaves the copy alive. -/
theorem Moves.alive {l l' : Lane} (h : Moves l l') :
    l.copy.isAlive = true ∧ l'.copy.isAlive = true := by
  cases h with
  | read hb => exact ⟨rfl, by rw [onRead_chunk hb]; rfl⟩
  | write ht =>
    refine ⟨rfl, ?_⟩
    rw [onWrite_took ht]
    split <;> rfl

theorem Meets.alive {l : Lane} {fault : Option Fault} (h : Meets l fault) :
    l.copy.isAlive = true := by
  cases h <;> rfl

/-- Whether channels are closed is not the copy's doing. -/
theorem Moves.closed {l l' : Lane} (h : Moves l l') :
    l'.source.closed = l.source.closed ∧ l'.sink.closed = l.sink.closed := by
  cases h with
  | read hb => exact ⟨rfl, rfl⟩
  | write ht => exact ⟨rfl, Channel.closed_write _ _⟩

/-- No byte on the way is lost or moved past another. -/
theorem Moves.flow {l l' : Lane} (h : Moves l l') :
    l'.sink.buffer ++ l'.copy.left ++ l'.source.buffer =
      l.sink.buffer ++ l.copy.left ++ l.source.buffer := by
  cases h with
  | read hb =>
    rw [onRead_chunk hb]
    simp [Copy.left]
  | @write left size total n source sink ht =>
    rw [onWrite_took ht, Channel.buffer_write_of_took ht]
    by_cases hle : left.length ≤ n
    · rw [if_pos hle, List.take_of_length_le hle]
      simp [Copy.left]
    · rw [if_neg hle]
      simp [Copy.left]

/-- A copy never has more than one chunk at hand. -/
theorem Moves.chunk {l l' : Lane} (h : Moves l l') (hl : l.copy.left.length ≤ chunkSize) :
    l'.copy.left.length ≤ chunkSize := by
  cases h with
  | read hb =>
    rw [onRead_chunk hb]
    exact List.length_take_le _ _
  | @write left size total n source sink ht =>
    rw [onWrite_took ht]
    split
    · exact Nat.zero_le _
    · simp only [Copy.left, List.length_drop] at hl ⊢
      omega

/-- What is left to do on a lane: a byte is dearest where it has the longest way to go. -/
def effort (l : Lane) : Nat :=
  -- to read a byte has to pay for having a chunk at hand, and to write the last one for reading on
  3 * l.source.buffer.length +
    match l.copy.stage with
    | .reading => 1
    | .writing left _ => left.length + 2
    | .ended _ | .crashed => 0

theorem Moves.effort_lt {l l' : Lane} (h : Moves l l') : l'.effort < l.effort := by
  cases h with
  | @read total source sink hb =>
    rw [onRead_chunk hb]
    have hpos : 0 < source.buffer.length := List.length_pos_iff.2 hb
    simp only [effort, List.length_take, List.length_drop, chunkSize]
    omega
  | @write left size total n source sink ht =>
    obtain ⟨-, hr, hn⟩ := Channel.write_took ht
    rw [onWrite_took ht]
    by_cases hle : left.length ≤ n
    · rw [if_pos hle]
      simp only [effort]
      omega
    · rw [if_neg hle]
      simp only [effort, List.length_drop]
      omega

/-- A copy that has ended leaves less to do than one that goes on. -/
theorem effort_ended_lt {l : Lane} (h : l.copy.isAlive = true) (fault : Option Fault) :
    (l.ended fault).effort < l.effort := by
  obtain ⟨⟨stage, total⟩, source, sink⟩ := l
  cases stage with
  | reading =>
    simp only [effort, ended]
    omega
  | writing left size =>
    simp only [effort, ended]
    omega
  | ended fault => cases h
  | crashed => cases h

/-! ## Nothing more to do -/

theorem stuck_of_not_alive {l : Lane} (h : l.copy.isAlive = false) : l.Stuck := by
  refine ⟨?_, ?_⟩
  · intro l' hm
    rw [hm.alive.1] at h
    cases h
  · intro fault hm
    rw [hm.alive] at h
    cases h

/-- A copy that goes on and can do nothing is blocked. -/
theorem Stuck.blocked {l : Lane} (h : l.Stuck) (ha : l.copy.isAlive = true) : l.Blocked := by
  obtain ⟨⟨stage, total⟩, source, sink⟩ := l
  cases stage with
  | reading =>
    left
    have hb : source.buffer = [] := Decidable.byContradiction fun hb => h.1 _ (.read hb)
    refine ⟨hb, ?_⟩
    rw [Bool.eq_false_iff]
    intro hc
    exact h.2 _ (.finished hb hc)
  | writing left size =>
    right
    cases hw : (sink.write left).2 with
    | took n => exact absurd (Moves.write hw) (h.1 _)
    | full => exact (Channel.write_full.1 hw).symm
    | broken => exact absurd (Meets.broken (Channel.write_broken.1 hw)) (h.2 _)
  | ended fault => cases ha
  | crashed => cases ha

theorem stuck_reading {total : Nat} {source sink : Channel} (hb : source.buffer = [])
    (hc : source.closed = false) : Stuck ⟨⟨.reading, total⟩, source, sink⟩ := by
  refine ⟨?_, ?_⟩
  · rintro l' ⟨hb'⟩
    exact hb' hb
  · rintro fault ⟨hb', hc'⟩
    simp [hc] at hc'

theorem stuck_writing {left : List UInt8} {size total : Nat} {source sink : Channel}
    (hc : sink.closed = false) (hr : sink.room = 0) :
    Stuck ⟨⟨.writing left size, total⟩, source, sink⟩ := by
  refine ⟨?_, ?_⟩
  · rintro l' ⟨ht⟩
    rename_i n ht
    have := (Channel.write_took ht).2.1
    omega
  · rintro fault ⟨hc'⟩
    rename_i hc'
    simp [hc] at hc'

/-! ## All at once -/

/-- The lane when its copy has done all it can. -/
def run (l : Lane) : Lane :=
  ⟨(l.copy.run l.source l.sink).1, (l.copy.run l.source l.sink).2.1,
    (l.copy.run l.source l.sink).2.2⟩

/-- A row of attempts that move bytes, up to where the copy is stuck or has met its end. -/
def RunsTo (l l' : Lane) : Prop :=
  ∃ m, Relation.ReflTransGen Moves l m ∧
    (m.Stuck ∧ l' = m ∨ ∃ fault, Meets m fault ∧ l' = m.ended fault)

theorem RunsTo.head {l m l' : Lane} (h : Moves l m) (h' : RunsTo m l') : RunsTo l l' := by
  obtain ⟨n, hn, he⟩ := h'
  exact ⟨n, .head h hn, he⟩

theorem Stuck.runsTo {l : Lane} (h : l.Stuck) : RunsTo l l := ⟨l, .refl, .inl ⟨h, rfl⟩⟩

theorem Meets.runsTo {l : Lane} {fault : Option Fault} (h : Meets l fault) :
    RunsTo l (l.ended fault) := ⟨l, .refl, .inr ⟨fault, h, rfl⟩⟩

/-- What a copy does in one go is a row of attempts. -/
theorem run_spec (l : Lane) : RunsTo l l.run := by
  obtain ⟨copy, source, sink⟩ := l
  unfold run
  dsimp only
  -- one case for each branch of the loop; where it goes round, an attempt stands before the rest
  fun_induction Copy.run copy source sink with
  | case1 source sink total hb =>
    by_cases hc : source.closed = true
    · simp only [if_pos hc]
      exact (Meets.finished hb hc).runsTo
    · simp only [if_neg hc]
      exact (stuck_reading hb (by simpa using hc)).runsTo
  | case2 source sink total b bs hb ih =>
    have hm : Moves ⟨⟨.reading, total⟩, source, sink⟩ _ := .read (by simp [hb])
    rw [onRead_chunk (by simp [hb]), hb, List.length_take] at hm
    exact ih.head hm
  | case3 source sink left size total sink' n hw hle ih =>
    have ht : (sink.write left).2 = .took n := by rw [hw]
    have hm : Moves ⟨⟨.writing left size, total⟩, source, sink⟩ _ := .write ht
    rw [onWrite_took ht, if_pos hle, hw] at hm
    exact ih.head hm
  | case4 source sink left size total sink' n hw hle =>
    have ht : (sink.write left).2 = .took n := by rw [hw]
    have hm : Moves ⟨⟨.writing left size, total⟩, source, sink⟩ _ := .write ht
    rw [onWrite_took ht, if_neg hle] at hm
    -- the sink took less than the rest of the chunk, so it is full now
    have hs : Stuck ⟨⟨.writing (left.drop n) size, total⟩, source, (sink.write left).1⟩ := by
      refine stuck_writing ?_ (Channel.room_write ht (by omega))
      rw [Channel.closed_write]
      exact (Channel.write_took ht).1
    rw [hw] at hm hs
    exact hs.runsTo.head hm
  | case5 source sink left size total sink' hw =>
    have hf : (sink.write left).2 = .full := by rw [hw]
    obtain ⟨hc, hr⟩ := Channel.write_full.1 hf
    have he : (sink.write left).1 = sink := Channel.write_unchanged (by simp [hf])
    rw [hw] at he
    subst he
    exact (stuck_writing hc hr).runsTo
  | case6 source sink left size total sink' hw =>
    have hf : (sink.write left).2 = .broken := by rw [hw]
    have he : (sink.write left).1 = sink := Channel.write_unchanged (by simp [hf])
    rw [hw] at he
    subst he
    exact (Meets.broken (Channel.write_broken.1 hf)).runsTo
  | case7 => exact (stuck_of_not_alive rfl).runsTo
  | case8 => exact (stuck_of_not_alive rfl).runsTo

/-- A copy that has done all it can is stuck. -/
theorem stuck_run (l : Lane) : l.run.Stuck := by
  obtain ⟨m, -, ⟨hs, he⟩ | ⟨fault, -, he⟩⟩ := l.run_spec
  · rw [he]
    exact hs
  · rw [he]
    exact stuck_of_not_alive rfl

end Lane

end Tether.Relay
