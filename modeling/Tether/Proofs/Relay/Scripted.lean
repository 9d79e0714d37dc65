import Tether.Proofs.Relay.Crossing
import Tether.Relay.Script

/-!
A relay between two scripted streams. Against its scripts a copy makes a row of attempts, on some
first of the reads of its source and however its races with the token go (`Copy.copyOn_comes`). Of
the two copies one ends by itself and the other one then or when it loses a race, or it ends too
(`both_cross`). So what two scripted streams come to is one of the courses that a relay can take,
where nothing broke a copy (`relayScripts_runs`): what a stream gave was taken, and what was
delivered is what was written into the streams (`ScriptedPipe.ComesOf`).
-/

namespace Tether.Relay

open Tether.Net Pipe Crossing

theorem length_le_of_mem_chunks {size : Nat} {bs c : List UInt8} (h : c ∈ chunks size bs) :
    c.length ≤ size := by
  fun_induction chunks size bs with
  | case1 => cases h
  | case2 bs _ ih =>
    rcases List.mem_cons.1 h with rfl | h
    · exact List.length_take_le _ _
    · exact ih h

/-- A scripted read that breaks nobody brings one chunk at a time. -/
theorem ReadOutcome.fair_of_mem_split {r s : ReadOutcome} (h : s ∈ r.split) :
    s.Fair ∨ s = .crashes := by
  unfold ReadOutcome.split at h
  split at h
  · rw [List.mem_singleton] at h
    subst h
    exact .inl (Nat.zero_le _)
  · obtain ⟨c, hc, rfl⟩ := List.mem_map.1 h
    exact .inl (length_le_of_mem_chunks hc)
  · rw [List.mem_singleton] at h
    subst h
    cases s with
    | bytes bs =>
      rename_i hbytes
      exact (hbytes bs rfl).elim
    | failed _ | waits => exact .inl trivial
    | crashes => exact .inr rfl

namespace Copy

/-- What a copy makes of a write that takes bytes depends on its count alone, and no more is taken
than is left. -/
theorem onWrite_took (c : Copy) (left : List UInt8) (size n : Nat) :
    c.onWrite left size (.took n) =
      Copy.onWrite ⟨.writing left size, c.total⟩ left size (.took (min n left.length)) := by
  unfold Copy.onWrite
  dsimp only
  by_cases hle : left.length ≤ n
  · have hmin : left.length ≤ min n left.length := by omega
    rw [if_pos hle, if_pos hmin]
  · have hmin : min n left.length = n := by omega
    rw [hmin]

theorem tries_took (c : Copy) (left : List UInt8) (size n : Nat) (given : List (List UInt8))
    (delivered : List UInt8) :
    Passage.Tries ⟨⟨.writing left size, c.total⟩, given, delivered⟩
      (.write (.took (min n left.length)))
      ⟨c.onWrite left size (.took n), given, delivered ++ left.take n⟩ := by
  rw [onWrite_took, List.take_eq_take_min]
  exact .write (w := .took (min n left.length)) (Nat.min_le_right _ _)

/-- What is written of a chunk against a script is written in a row of attempts. -/
theorem writeOn_row (c : Copy) (left : List UInt8) (size : Nat) (writes : List WriteOutcome)
    (given : List (List UInt8)) (delivered : List UInt8)
    (h : (c.writeOn left size writes).2.2.stage ≠ .crashed) :
    ∃ as, Passage.Row ⟨⟨.writing left size, c.total⟩, given, delivered⟩ as
      ⟨(c.writeOn left size writes).2.2, given,
        delivered ++ (c.writeOn left size writes).2.1.flatten⟩ := by
  -- on the attempts of the script
  induction writes generalizing left delivered with
  | nil =>
    have ht := c.tries_took left size left.length given delivered
    rw [List.take_length] at ht
    rw [Copy.writeOn, List.flatten_singleton]
    exact ⟨_, .single ht⟩
  | cons w writes ih =>
    cases w with
    | took n =>
      have ht := c.tries_took left size n given delivered
      by_cases hn : n = 0 ∨ left.length ≤ n
      · rw [Copy.writeOn, if_pos hn, List.flatten_singleton]
        exact ⟨_, .single ht⟩
      · -- the rest of the chunk is offered again
        have hw : c.onWrite left size (.took n) = ⟨.writing (left.drop n) size, c.total⟩ := by
          rw [Copy.onWrite, if_neg (fun hle => hn (.inr hle)), if_neg (fun hz => hn (.inl hz))]
        rw [Copy.writeOn, if_neg hn] at h ⊢
        obtain ⟨as, hrow⟩ := ih (left.drop n) (delivered ++ left.take n) h
        rw [hw] at ht
        rw [List.append_assoc] at hrow
        exact ⟨_, .head ht hrow⟩
    | failed fault =>
      by_cases hi : fault.isInterrupted = true
      · rw [Copy.writeOn, if_pos hi] at h ⊢
        exact ih left delivered h
      · have ht : Passage.Tries ⟨⟨.writing left size, c.total⟩, given, delivered⟩ _ _ :=
          .write (w := .failed fault) trivial
        rw [Copy.onWrite, if_neg hi] at ht
        rw [Copy.writeOn, if_neg hi, Copy.onWrite, if_neg hi]
        exact ⟨_, .single ht⟩
    | waits =>
      rw [Copy.writeOn, List.flatten_singleton, List.append_nil]
      exact ⟨[], .refl⟩
    | crashes => exact absurd rfl h

end Copy

/-- A copy comes to this from a passage, by a row of attempts on some first of these reads, and has
written these bytes meanwhile. -/
def Passage.Comes (p : Passage) (reads : List ReadOutcome) (c : Copy) (more : List UInt8) : Prop :=
  ∃ as k, p.Row as ⟨c, p.chunks ++ (reads.take k).flatMap ReadOutcome.chunk, p.delivered ++ more⟩

namespace Passage

variable {total : Nat} {given : List (List UInt8)} {delivered : List UInt8}
  {reads : List ReadOutcome}

theorem comes_refl (p : Passage) (reads : List ReadOutcome) : p.Comes reads p.copy [] := by
  refine ⟨[], 0, ?_⟩
  simpa using Row.refl

/-- The copy stops behind a read. -/
theorem comes_read {r : ReadOutcome} (hr : r.Fair) :
    Comes ⟨⟨.reading, total⟩, given, delivered⟩ (r :: reads) (Copy.onRead ⟨.reading, total⟩ r)
      [] := by
  refine ⟨[.read r], 1, ?_⟩
  have ht : Tries ⟨⟨.reading, total⟩, given, delivered⟩ _ _ := .read hr
  rw [List.append_nil]
  simpa using Row.single ht

/-- Behind a chunk that was written, completely or not, the copy goes on as it does. -/
theorem comes_chunk {b : UInt8} {bs : List UInt8} {as : List Attempt} {c c' : Copy}
    {took more : List UInt8} (hr : (ReadOutcome.bytes (b :: bs)).Fair)
    (hrow : Row ⟨⟨.writing (b :: bs) (b :: bs).length, total⟩, given ++ [b :: bs], delivered⟩ as
      ⟨c, given ++ [b :: bs], delivered ++ took⟩)
    (h : Comes ⟨c, given ++ [b :: bs], delivered ++ took⟩ reads c' more) :
    Comes ⟨⟨.reading, total⟩, given, delivered⟩ (.bytes (b :: bs) :: reads) c'
      (took ++ more) := by
  obtain ⟨as', k, hrow'⟩ := h
  have ht : Tries ⟨⟨.reading, total⟩, given, delivered⟩ (.read (.bytes (b :: bs)))
      ⟨⟨.writing (b :: bs) (b :: bs).length, total⟩, given ++ [b :: bs], delivered⟩ := .read hr
  have hall := Row.head ht (hrow.trans hrow')
  rw [List.append_assoc, List.append_assoc] at hall
  exact ⟨_, k + 1, hall⟩

end Passage

namespace Copy

/-- What a copy does against scripts is a row of attempts, however its races go. -/
theorem copyOn_comes (total : Nat) (sinkBroken : Bool) (t : Token) (writes : List WriteOutcome)
    (reads : List ReadOutcome) (given : List (List UInt8)) (delivered : List UInt8)
    (hfair : ∀ r ∈ reads, r.Fair ∨ r = .crashes)
    (h : (Copy.copyOn ⟨.reading, total⟩ sinkBroken t writes reads).copy.stage ≠ .crashed) :
    Passage.Comes ⟨⟨.reading, total⟩, given, delivered⟩ reads
      (Copy.copyOn ⟨.reading, total⟩ sinkBroken t writes reads).copy
      (Copy.copyOn ⟨.reading, total⟩ sinkBroken t writes reads).took.flatten := by
  -- on the reads of the script
  induction reads generalizing total t writes given delivered with
  | nil => exact Passage.comes_refl _ []
  | cons r reads ih =>
    have hrest : ∀ s ∈ reads, s.Fair ∨ s = .crashes :=
      fun s hs => hfair s (List.mem_cons_of_mem r hs)
    rw [copyOn] at h ⊢
    generalize t.race = choice at h ⊢
    obtain ⟨_ | _, t⟩ := choice
    · -- the token came first
      exact Passage.comes_refl ⟨⟨.reading, total⟩, given, delivered⟩ _
    rcases hfair r List.mem_cons_self with hr | rfl
    · cases r with
      | bytes bs =>
        cases bs with
        | nil => exact Passage.comes_read hr
        | cons b bs =>
          simp only [onRead] at h ⊢
          generalize t.race = choice at h ⊢
          obtain ⟨_ | _, t⟩ := choice
          · exact Passage.comes_read hr
          have hbroken : sinkBroken = false := by
            rw [← Bool.not_eq_true]
            intro hb
            simp [hb] at h
          subst hbroken
          have hrow := writeOn_row ⟨.writing (b :: bs) (b :: bs).length, total⟩ (b :: bs)
            (b :: bs).length writes (given ++ [b :: bs]) delivered
          rcases hw : Copy.writeOn ⟨.writing (b :: bs) (b :: bs).length, total⟩ (b :: bs)
            (b :: bs).length writes with ⟨writes', took, ⟨stage, total'⟩⟩
          rw [hw] at hrow
          simp only [hw] at h ⊢
          cases stage with
          | reading =>
            obtain ⟨as, hrow⟩ := hrow (by simp)
            have hgo := ih total' t writes' (given ++ [b :: bs])
              (delivered ++ took.flatten) hrest h
            have hall := Passage.comes_chunk hr hrow hgo
            rwa [← List.flatten_append] at hall
          | writing _ _ | ended _ =>
            obtain ⟨as, hrow⟩ := hrow (by simp)
            have hall := Passage.comes_chunk hr hrow (Passage.comes_refl _ reads)
            rwa [List.append_nil] at hall
          | crashed => exact absurd rfl h
      | failed fault => exact Passage.comes_read hr
      | waits => exact Passage.comes_read hr
      | crashes => exact hr.elim
    · exact absurd rfl h

end Copy

theorem Token.cancelled_race (t : Token) : t.race.2.cancelled = t.cancelled := by
  unfold Token.race
  split
  · split <;> rfl
  · rfl

/-- Nobody cancels the token in the loop of a copy. -/
theorem Copy.cancelled_copyOn (c : Copy) (sinkBroken : Bool) (t : Token)
    (writes : List WriteOutcome) (reads : List ReadOutcome) :
    (c.copyOn sinkBroken t writes reads).token.cancelled = t.cancelled := by
  fun_induction copyOn c sinkBroken t writes reads <;> grind [Token.cancelled_race]

/-- The chunks that a scripted stream gave: those of some first of its reads. -/
def Script.Gave (s : Script) (given : List (List UInt8)) : Prop :=
  ∃ k, given = ((s.reads.flatMap ReadOutcome.split).take k).flatMap ReadOutcome.chunk

/-! ## One copy -/

theorem Script.fair_of_mem_offers {s : Script} {r : ReadOutcome} (h : r ∈ s.offers) :
    r.Fair ∨ r = .crashes := by
  unfold Script.offers at h
  split at h
  · exact .inr (List.mem_singleton.1 h)
  · obtain ⟨read, -, hr⟩ := List.mem_flatMap.1 h
    exact ReadOutcome.fair_of_mem_split hr

/-- What some first of its reads brought was given by the stream. A broken one gives nothing. -/
theorem Script.gave_offers (s : Script) (k : Nat) :
    s.Gave ((s.offers.take k).flatMap ReadOutcome.chunk) := by
  unfold Script.offers
  split
  · refine ⟨0, ?_⟩
    cases k with
    | zero => rfl
    | succ k =>
      rw [List.take_succ_cons, List.take_nil]
      rfl
  · exact ⟨k, rfl⟩

/-- The loop of a copy between two scripted streams is a row of attempts. -/
theorem between_row {t : Token} {source sink : Script}
    (h : (Copy.between t source sink).copy.stage ≠ .crashed) :
    ∃ as p, Passage.fresh.Row as p ∧ p.copy = (Copy.between t source sink).copy ∧
      (Copy.between t source sink).sink.written = sink.written ++ p.delivered ∧
      source.Gave p.chunks := by
  obtain ⟨as, k, hrow⟩ := Copy.copyOn_comes 0 sink.broken t sink.writes source.offers [] []
    (fun _ => Script.fair_of_mem_offers) h
  refine ⟨as, _, hrow, rfl, ?_, source.gave_offers k⟩
  show (sink.calls ++ List.map SinkCall.write _).flatMap SinkCall.bytes = _
  rw [List.flatMap_append, List.flatMap_map, List.nil_append, List.flatten_eq_flatMap]
  rfl

namespace CopyTask

variable {x : CopyTask}

/-- What a copy that nothing has broken comes to behind its loop. It goes on, under a token that
nobody has cancelled, or it is over and has cancelled the token. -/
theorem conclude_cases (h : x.conclude.copy.stage ≠ .crashed) :
    (x.conclude = x ∧ x.copy.isAlive = true ∧ x.token.cancelled = false) ∨
      (x.conclude.copy = x.copy.cancel ∧ x.copy.stage ≠ .crashed ∧
        x.conclude.copy.isAlive = false ∧ x.conclude.token.cancelled = true ∧
        (x.copy.isAlive = true → x.token.cancelled = true)) := by
  obtain ⟨⟨stage, total⟩, source, sink, ⟨cancelled, races⟩, isOver⟩ := x
  unfold conclude at h ⊢
  cases hb : sink.broken with
  | true =>
    -- a copy that ends breaks at a broken sink
    cases cancelled <;> cases stage <;> simp_all [Copy.cancel, Copy.isAlive]
  | false =>
    cases cancelled <;> cases stage <;> simp_all [Copy.cancel, Copy.isAlive, Token.cancel]

@[simp] theorem source_conclude (x : CopyTask) : x.conclude.source = x.source := by
  unfold conclude
  grind

@[simp] theorem reads_conclude (x : CopyTask) : x.conclude.sink.reads = x.sink.reads := by
  unfold conclude
  grind

@[simp] theorem written_conclude (x : CopyTask) : x.conclude.sink.written = x.sink.written := by
  have hshut : (x.sink.calls ++ [SinkCall.shutdown]).flatMap SinkCall.bytes = x.sink.written := by
    rw [List.flatMap_append]
    exact List.append_nil _
  unfold conclude
  grind [Script.written]

end CopyTask

/-- What a copy between two streams did is a passage. -/
structure CopyTask.Follows (x : CopyTask) (source sink : Script) (p : Passage) : Prop where
  row : ∃ as, Passage.fresh.Row as p
  source_written : x.source.written = source.written
  sink_written : x.sink.written = sink.written ++ p.delivered
  sink_reads : x.sink.reads = sink.reads
  gave : source.Gave p.chunks

/-- A copy between two streams that nothing has broken follows a passage. It waits, under a token that
nobody cancels, or it is over and has cancelled the token, by itself if nobody had done so before. -/
theorem untilDone_follows {t : Token} {source sink : Script}
    (h : (Copy.untilDone t source sink).copy.stage ≠ .crashed) :
    ∃ p, (Copy.untilDone t source sink).Follows source sink p ∧
      (((Copy.untilDone t source sink).copy = p.copy ∧ p.copy.isAlive = true ∧
          (Copy.untilDone t source sink).isOver = false ∧ t.cancelled = false ∧
          (Copy.untilDone t source sink).token.cancelled = false) ∨
        ((Copy.untilDone t source sink).copy = p.copy.cancel ∧
          (Copy.untilDone t source sink).copy.isAlive = false ∧
          (Copy.untilDone t source sink).token.cancelled = true ∧
          (p.copy.isAlive = true → t.cancelled = true))) := by
  have htoken : (Copy.between t source sink).token.cancelled = t.cancelled :=
    Copy.cancelled_copyOn ..
  unfold Copy.untilDone at h ⊢
  have hcases := CopyTask.conclude_cases h
  have hok : (Copy.between t source sink).copy.stage ≠ .crashed := by
    rcases hcases with ⟨hsame, -, -⟩ | ⟨-, hok, -⟩
    · rwa [hsame] at h
    · exact hok
  obtain ⟨as, p, hrow, hcopy, hwritten, hgave⟩ := between_row hok
  refine ⟨p, ⟨⟨as, hrow⟩, ?_, ?_, ?_, hgave⟩, ?_⟩
  · rw [CopyTask.source_conclude]
    rfl
  · rw [CopyTask.written_conclude, hwritten]
  · rw [CopyTask.reads_conclude]
    rfl
  · rw [hcopy]
    rcases hcases with ⟨hsame, halive, hopen⟩ | ⟨hcancel, -, hover, hcut, hwhy⟩
    · rw [hsame]
      exact .inl ⟨rfl, halive, rfl, htoken.symm.trans hopen, hopen⟩
    · rw [htoken] at hwhy
      exact .inr ⟨hcancel, hover, hcut, hwhy⟩

/-! ## Both copies -/

section Both

variable (t : Token) (x y : Script)

/-- The first copy with what the other one has left of the streams and of the token. -/
def Copy.woken : CopyTask :=
  { Copy.untilDone t x y with
    source := (Copy.both t x y).2.sink
    sink := (Copy.both t x y).2.source
    token := (Copy.both t x y).2.token }

theorem both_waits (h : (Copy.untilDone t x y).copy.isAlive = true) :
    (Copy.both t x y).1 = (Copy.woken t x y).conclude := if_pos h

theorem both_over (h : (Copy.untilDone t x y).copy.isAlive = false) :
    (Copy.both t x y).1 = Copy.woken t x y :=
  if_neg (ne_true_of_eq_false h)

end Both

variable {t : Token} {x y : Script}

/-- What the second copy leaves of the streams is what is left of them. -/
theorem both_streams :
    (Copy.both t x y).1.source.written = (Copy.both t x y).2.sink.written ∧
      (Copy.both t x y).1.sink.written = (Copy.both t x y).2.source.written := by
  cases h : (Copy.untilDone t x y).copy.isAlive with
  | true =>
    rw [both_waits t x y h, CopyTask.source_conclude, CopyTask.written_conclude]
    exact ⟨rfl, rfl⟩
  | false =>
    rw [both_over t x y h]
    exact ⟨rfl, rfl⟩

/-- A copy that only a cancelled token would have ended, and that found it open, ended by itself. -/
theorem over_of_open {c : Copy} (hwhy : c.isAlive = true → t.cancelled = true)
    (ht : t.cancelled = false) : c.isAlive = false := by
  rw [← Bool.not_eq_true]
  intro halive
  rw [hwhy halive] at ht
  cases ht

/-- Two copies that are over, and that nothing has broken, follow two passages, of which one came to
its end by itself. -/
theorem both_cross (ht : t.cancelled = false) (ha : (Copy.both t x y).1.copy.stage ≠ .crashed)
    (hb : (Copy.both t x y).2.copy.stage ≠ .crashed) (ho : (Copy.both t x y).1.isOver = true) :
    ∃ p q, (∃ as, Passage.fresh.Row as p) ∧ (∃ bs, Passage.fresh.Row bs q) ∧
      (p.copy.isAlive = false ∨ q.copy.isAlive = false) ∧
      (Copy.both t x y).1.copy = p.copy.cancel ∧ (Copy.both t x y).2.copy = q.copy.cancel ∧
      (Copy.both t x y).1.sink.written = y.written ++ p.delivered ∧
      (Copy.both t x y).1.source.written = x.written ++ q.delivered ∧
      x.Gave p.chunks ∧ y.Gave q.chunks := by
  have hok : (Copy.untilDone t x y).copy.stage ≠ .crashed := by
    intro hc
    rw [both_over t x y (by rw [Copy.isAlive, hc])] at ha
    exact ha hc
  obtain ⟨p, hp, hpfate⟩ := untilDone_follows hok
  obtain ⟨q, hq, hqfate⟩ := untilDone_follows hb
  obtain ⟨hsource, hsink⟩ := both_streams (t := t) (x := x) (y := y)
  have hout : (Copy.both t x y).1.sink.written = y.written ++ p.delivered :=
    hsink.trans (hq.source_written.trans hp.sink_written)
  have hin : (Copy.both t x y).1.source.written = x.written ++ q.delivered := by
    rw [hsource, ← hp.source_written]
    exact hq.sink_written
  have hgave : y.Gave q.chunks := by
    have hq := hq.gave
    unfold Script.Gave at hq ⊢
    rwa [hp.sink_reads] at hq
  rcases hpfate with ⟨hpcopy, hpalive, hwaits, -, hopen⟩ | ⟨hpcopy, hpover, hpcut, hpwhy⟩
  · -- the first copy waits, until the other one has ended by itself
    have halive : (Copy.untilDone t x y).copy.isAlive = true := by rwa [hpcopy]
    have hboth := both_waits t x y halive
    rw [hboth] at ha
    rcases CopyTask.conclude_cases ha with ⟨hsame, -, -⟩ | ⟨hcancel, -, -, -, hwhy⟩
    · rw [hboth, hsame, Copy.woken, hwaits] at ho
      cases ho
    · have hcut : (Copy.both t x y).2.token.cancelled = true := hwhy halive
      have hcopy : (Copy.both t x y).1.copy = p.copy.cancel := by
        rw [hboth, hcancel, ← hpcopy]
        rfl
      rcases hqfate with ⟨-, -, -, -, hstill⟩ | ⟨hqcopy, -, -, hqwhy⟩
      · exact absurd (hcut.symm.trans hstill) (by decide)
      · have hqover : q.copy.isAlive = false := over_of_open hqwhy hopen
        exact ⟨p, q, hp.row, hq.row, .inr hqover, hcopy, hqcopy, hout, hin, hp.gave, hgave⟩
  · -- the first copy has ended by itself, and the other one finds the token cancelled
    have hcopy : (Copy.both t x y).1.copy = p.copy.cancel := by
      rw [both_over t x y hpover, ← hpcopy]
      rfl
    have hpend : p.copy.isAlive = false := over_of_open hpwhy ht
    rcases hqfate with ⟨-, -, -, hstill, -⟩ | ⟨hqcopy, -⟩
    · exact absurd (hpcut.symm.trans hstill) (by decide)
    · exact ⟨p, q, hp.row, hq.row, .inl hpend, hcopy, hqcopy, hout, hin, hp.gave, hgave⟩

/-- What a pipe between two scripted streams came to is what a relay came to. -/
structure ScriptedPipe.ComesOf (p : ScriptedPipe) (inbound outbound : Script) (c : Crossing) :
    Prop where
  stats : c.stats = p.stats
  toLocal : (c.passage .client).copy = p.toLocal
  toRemote : (c.passage .service).copy = p.toRemote
  /-- What was delivered is what was written into the streams. -/
  writtenOut : p.outbound.written = outbound.written ++ (c.passage .client).delivered
  writtenIn : p.inbound.written = inbound.written ++ (c.passage .service).delivered
  /-- What was taken is what the streams gave. -/
  gaveIn : inbound.Gave (c.passage .client).chunks
  gaveOut : outbound.Gave (c.passage .service).chunks

/-- What two copies come to is a course of a relay in which the first one carries the bytes of this
end. -/
theorem both_runs {races : List Bool} (e : End)
    (ha : (Copy.both ⟨false, races⟩ x y).1.copy.stage ≠ .crashed)
    (hb : (Copy.both ⟨false, races⟩ x y).2.copy.stage ≠ .crashed)
    (ho : (Copy.both ⟨false, races⟩ x y).1.isOver = true) :
    ∃ past c, Runs past c ∧ c.stats = some c.report ∧
      (c.passage e).copy = (Copy.both ⟨false, races⟩ x y).1.copy ∧
      (c.passage e.other).copy = (Copy.both ⟨false, races⟩ x y).2.copy ∧
      (Copy.both ⟨false, races⟩ x y).1.sink.written = y.written ++ (c.passage e).delivered ∧
      (Copy.both ⟨false, races⟩ x y).1.source.written =
        x.written ++ (c.passage e.other).delivered ∧
      x.Gave (c.passage e).chunks ∧ y.Gave (c.passage e.other).chunks := by
  obtain ⟨p, q, ⟨as, hp⟩, ⟨bs, hq⟩, hend, hpcopy, hqcopy, hout, hin, hpgave, hqgave⟩ :=
    both_cross rfl ha hb ho
  obtain ⟨past, c, hr, he, hother, hs⟩ := Runs.of_rows (e := e) hp hq hend
  refine ⟨past, c, hr, hs, ?_⟩
  rw [he, hother]
  exact ⟨hpcopy.symm, hqcopy.symm, hout, hin, hpgave, hqgave⟩

/-- A pipe that has returned, with what was moved by copies that are over. -/
theorem ScriptedPipe.stats_ofTasks {inbound outbound : Script} {toLocal toRemote : CopyTask}
    (h : (ofTasks inbound outbound toLocal toRemote).stats ≠ none) :
    toLocal.isOver = true ∧ toRemote.isOver = true ∧
      (ofTasks inbound outbound toLocal toRemote).stats =
        some (.ofCopies toLocal.copy toRemote.copy) := by
  unfold ofTasks at h ⊢
  dsimp only at h ⊢
  split at h
  · rename_i hover
    rw [if_pos hover]
    rw [Bool.and_eq_true] at hover
    exact ⟨hover.1, hover.2, rfl⟩
  · exact absurd rfl h

/-- What two scripted streams come to is a course that a relay can take. -/
theorem relayScripts_runs {inbound outbound : Script} {course : Course}
    (hstats : (relayScripts inbound outbound course).stats ≠ none)
    (hlocal : (relayScripts inbound outbound course).toLocal.stage ≠ .crashed)
    (hremote : (relayScripts inbound outbound course).toRemote.stage ≠ .crashed) :
    ∃ past c, Runs past c ∧
      (relayScripts inbound outbound course).ComesOf inbound outbound c := by
  obtain ⟨first, races⟩ := course
  cases first with
  | client =>
    obtain ⟨hover, -, hreport⟩ := ScriptedPipe.stats_ofTasks hstats
    obtain ⟨past, c, hr, hs, ha, hb, hout, hin, hgin, hgout⟩ := both_runs .client hlocal hremote hover
    refine ⟨past, c, hr, ?_, ha, hb, hout, hin, hgin, hgout⟩
    exact hs.trans
      ((congrArg₂ (fun a b => some (Stats.ofCopies a b)) ha hb).trans hreport.symm)
  | service =>
    obtain ⟨-, hover, hreport⟩ := ScriptedPipe.stats_ofTasks hstats
    obtain ⟨past, c, hr, hs, ha, hb, hout, hin, hgout, hgin⟩ :=
      both_runs .service hremote hlocal hover
    refine ⟨past, c, hr, ?_, hb, ha, hin, hout, hgin, hgout⟩
    exact hs.trans
      ((congrArg₂ (fun a b => some (Stats.ofCopies b a)) ha hb).trans hreport.symm)

end Tether.Relay
