import Tether.Proofs.Relay.Integrity
import Tether.Proofs.Relay.Scripted

/-!
What a relay counts. Between streams of any kind and in any order of polling, a relay that has
returned reports in each direction the total size of the chunks that were written completely; what
was delivered beyond that is less than a chunk; and a direction that ended with its source, or with
a read that failed, has delivered and counted all that was taken from there
(`Crossing.Runs.reports`). Everything that can become of a pipe between streams in memory is one of
these courses (`Traffic.Reaches.mirrored`): the bytes taken are those that the sender has sent and
the pipe has not read yet. `relay_statistics` says so of streams of any kind, of scripted ones and
of those in memory.
-/

namespace Tether.Relay

open Tether.Net Pipe Crossing

/-! ## One direction between streams in memory -/

namespace Lane

/-- The books on a lane, with what was sent into it and received from it, are those of a passage. -/
structure Mirrors (l : Lane) (sent received : List UInt8) (p : Passage) : Prop where
  copy : p.copy = l.copy
  taken : p.taken ++ l.source.buffer = sent
  delivered : p.delivered = received ++ l.sink.buffer

namespace Mirrors

variable {l l' : Lane} {sent received : List UInt8} {p : Passage}

theorem fresh (c d : Nat) : Mirrors ⟨.fresh, .ofCapacity c, .ofCapacity d⟩ [] [] .fresh :=
  ⟨rfl, rfl, rfl⟩

/-- An attempt that moves bytes is an attempt of the passage. -/
theorem moves (h : l.Mirrors sent received p) (hm : Moves l l') :
    ∃ a p', p.Tries a p' ∧ l'.Mirrors sent received p' := by
  obtain ⟨copy, given, delivered⟩ := p
  obtain ⟨rfl, htaken, rfl⟩ := h
  cases hm with
  | @read total source sink hb =>
    have hfair : (ReadOutcome.bytes (source.buffer.take chunkSize)).Fair := List.length_take_le _ _
    refine ⟨_, _, .read hfair, rfl, ?_, rfl⟩
    have hchunk : (ReadOutcome.bytes (source.buffer.take chunkSize)).chunk =
        [source.buffer.take chunkSize] := by
      cases hbuf : source.buffer with
      | nil => exact absurd hbuf hb
      | cons b bs => rfl
    rw [← htaken, hchunk]
    simp [Passage.taken]
  | @write left size total n source sink ht =>
    have hfair : (WriteOutcome.took n).Fair left := by
      have hn := (Channel.write_took ht).2.2
      show n ≤ left.length
      omega
    refine ⟨_, _, .write hfair, rfl, htaken, ?_⟩
    rw [Channel.buffer_write_of_took ht, List.append_assoc]
    rfl

/-- An attempt that ends the copy is an attempt of the passage; if it met the end of the source, it
was a read that brought nothing. -/
theorem meets {fault : Option Fault} (h : l.Mirrors sent received p) (hm : Meets l fault) :
    ∃ a p', p.Tries a p' ∧ (l.ended fault).Mirrors sent received p' ∧
      (fault = none → a = .read (.bytes []) ∧ l.source.isOver = true) := by
  obtain ⟨copy, given, delivered⟩ := p
  obtain ⟨rfl, htaken, rfl⟩ := h
  cases hm with
  | @finished total source sink hb hc =>
    have hfair : (ReadOutcome.bytes []).Fair := Nat.zero_le _
    refine ⟨_, _, .read hfair, ⟨rfl, ?_, rfl⟩, fun _ => ⟨rfl, ?_⟩⟩
    · rw [← htaken]
      simp [Passage.taken, ended, ReadOutcome.chunk]
    · show (source.closed && source.buffer.isEmpty) = true
      rw [hc, hb]
      rfl
  | @broken left size total source sink hc =>
    have hfair : (WriteOutcome.failed .brokenPipe).Fair left := trivial
    refine ⟨_, _, .write hfair, ⟨rfl, htaken, List.append_nil _⟩, ?_⟩
    intro hf
    cases hf

/-- A copy that goes on is cancelled. -/
theorem cancel (h : l.Mirrors sent received p) (ha : l.copy.isAlive = true) :
    (l.ended none).Mirrors sent received p.cancel where
  copy := by
    show p.copy.cancel = ⟨.ended none, l.copy.total⟩
    rw [h.copy, Copy.cancel, if_pos ha]
  taken := h.taken
  delivered := h.delivered

/-- The passage does not care whether bytes wait for the peer or were read by it, nor whether
channels are closed. -/
theorem congr {received' : List UInt8} (h : l.Mirrors sent received p) (hc : l'.copy = l.copy)
    (hs : l'.source.buffer = l.source.buffer)
    (hr : received' ++ l'.sink.buffer = received ++ l.sink.buffer) :
    l'.Mirrors sent received' p :=
  ⟨h.copy.trans hc.symm, by rw [hs, h.taken], by rw [hr, h.delivered]⟩

/-- What the source takes was sent, and the passage has not taken it yet. -/
theorem write (h : l.Mirrors sent received p) (bytes : List UInt8) :
    Mirrors { l with source := (l.source.write bytes).1 }
      (sent ++ bytes.take (l.source.write bytes).2.count) received p where
  copy := h.copy
  taken := by rw [Channel.buffer_write, ← List.append_assoc, h.taken]
  delivered := h.delivered

/-- What the sink gives away was received. -/
theorem drain (h : l.Mirrors sent received p) (limit : Option Nat) :
    Mirrors { l with sink := (l.sink.drain limit).1 } sent (received ++ (l.sink.drain limit).2.1)
      p :=
  h.congr rfl rfl (by rw [List.append_assoc, Channel.drain_append])

end Mirrors

/-- A source that is over gives and takes nothing more. -/
theorem Moves.isOver {l l' : Lane} (hm : Moves l l') (h : l.source.isOver = true) :
    l'.source.isOver = true := by
  cases hm with
  | read hb =>
    unfold Channel.isOver at h
    rw [Bool.and_eq_true, List.isEmpty_iff] at h
    exact absurd h.2 hb
  | write _ => exact h

end Lane

namespace Traffic

open Function

variable {inbound outbound : Nat} {done : List Deed} {t : Traffic} {past : List Event}
  {c : Crossing}

/-! ## A source that is over -/

/-- Nothing that a pipe does brings back a source that is over. -/
theorem isOver_does {d : Deed} {p p' : Pipe} (hd : Does done p d p') (e : End)
    (h : (p.lane e).source.isOver = true) : (p'.lane e).source.isOver = true := by
  have hset {x : End} {l : Lane}
      (hl : (p.lane x).source.isOver = true → l.source.isOver = true) :
      ((p.setLane x l).lane e).source.isOver = true :=
    forall_setLane (P := fun y l => (p.lane y).source.isOver = true → l.source.isOver = true)
      hl id e h
  cases hd with
  | move _ hm => exact hset hm.isOver
  | meet _ _ | cancel _ _ _ | shut _ _ _ => exact hset id
  | release _ _ =>
    rw [Ordered.lane_release]
    unfold Channel.isOver at h ⊢
    rw [Bool.and_eq_true] at h ⊢
    exact ⟨rfl, h.2⟩

/-- Nothing that an end does brings back a source that is over. -/
theorem isOver_act (e : End) (x : Act) (y : End) (h : (t.pipe.lane y).source.isOver = true) :
    ((t.act e x).pipe.lane y).source.isOver = true := by
  have hset {p : Pipe} {z : End} {l : Lane} (hp : (p.lane y).source.isOver = true)
      (hl : (p.lane z).source.isOver = true → l.source.isOver = true) :
      ((p.setLane z l).lane y).source.isOver = true :=
    forall_setLane (P := fun y l => (p.lane y).source.isOver = true → l.source.isOver = true)
      hl id y hp
  have hclose (source : Channel) (hs : source.isOver = true) : source.close.isOver = true := by
    unfold Channel.isOver at hs ⊢
    rw [Bool.and_eq_true] at hs ⊢
    exact ⟨rfl, hs.2⟩
  unfold Traffic.act
  split
  · exact h
  cases x with
  | write bytes =>
    refine hset h fun hs => ?_
    have hc : (t.pipe.lane e).source.closed = true := by
      unfold Channel.isOver at hs
      rw [Bool.and_eq_true] at hs
      exact hs.1
    have hw : ((t.pipe.lane e).source.write bytes).1 = (t.pipe.lane e).source := by
      refine Channel.write_unchanged fun n => ?_
      rw [Channel.write_broken.2 hc]
      simp
    show ((t.pipe.lane e).source.write bytes).1.isOver = true
    rw [hw]
    exact hs
  | read limit => exact hset h id
  | shutdown => exact hset h (hclose _)
  | drop => exact hset (hset h (hclose _)) id

/-! ## The course of a pipe in use -/

/-- What a pipe in use has come to is what a relay has come to. -/
structure Mirrors (past : List Event) (c : Crossing) (done : List Deed) (t : Traffic) : Prop where
  stats : c.stats = t.pipe.stats
  /-- The bytes taken are those that were sent and do not wait for the pipe; the bytes delivered are
  those that were received and those that wait for the receiver. -/
  lane : ∀ e, (t.pipe.lane e).Mirrors (t.sent e) (t.received e.other) (c.passage e)
  /-- A copy that met the end of its source read nothing there, and nothing is left there. -/
  met : ∀ e, .meet e none ∈ done →
    .attempt e (.read (.bytes [])) ∈ past ∧ (t.pipe.lane e).source.isOver = true
  shut : ∀ e, .shut e ∈ done ↔ ∃ fault, .shut e fault ∈ past

namespace Mirrors

theorem fresh (inbound outbound : Nat) :
    Mirrors [] .fresh [] (.fresh inbound outbound) where
  stats := rfl
  lane e := by cases e <;> exact Lane.Mirrors.fresh _ _
  met e h := absurd h List.not_mem_nil
  shut e := by simp

/-- What the ends do changes no passage. -/
theorem act (h : Mirrors past c done t) (e : End) (x : Act) :
    Mirrors past c done (t.act e x) where
  stats := by rw [stats_act, h.stats]
  lane := by
    unfold Traffic.act
    split
    · exact h.lane
    cases x with
    | write bytes =>
      refine forall_setLane (P := fun y l =>
        l.Mirrors (update t.sent e _ y) (t.received y.other) (c.passage y)) ?_ ?_
      · rw [update_self]
        exact (h.lane e).write bytes
      · rw [update_of_ne e.other_ne]
        exact h.lane e.other
    | read limit =>
      -- what an end reads comes out of the direction in which the opposite end sends
      refine forall_setLane (P := fun y l =>
        l.Mirrors (t.sent y) (update t.received e _ y.other) (c.passage y)) ?_ ?_
      · rw [End.other_other, update_self]
        simpa using (h.lane e.other).drain limit
      · rw [End.other_other, update_of_ne e.other_ne]
        exact h.lane e
    | shutdown =>
      exact forall_setLane (P := fun y l => l.Mirrors (t.sent y) (t.received y.other) (c.passage y))
        ((h.lane e).congr rfl rfl rfl) (h.lane e.other)
    | drop =>
      have hs : ∀ y, ((t.pipe.setLane e
          { t.pipe.lane e with source := (t.pipe.lane e).source.close }).lane y).Mirrors (t.sent y)
          (t.received y.other) (c.passage y) :=
        forall_setLane (P := fun y l => l.Mirrors (t.sent y) (t.received y.other) (c.passage y))
          ((h.lane e).congr rfl rfl rfl) (h.lane e.other)
      exact forall_setLane
        (P := fun y l => l.Mirrors (t.sent y) (t.received y.other) (c.passage y))
        ((hs e.other).congr rfl rfl rfl) (hs e.other.other)
  met y hy := ⟨(h.met y hy).1, isOver_act e x y (h.met y hy).2⟩
  shut := h.shut

/-- A direction and its passage that changed, with an event for a deed of it. -/
theorem set {e : End} {l : Lane} {p : Passage} {d : Deed} {ev : Event} {q : Pipe}
    (h : Mirrors past c done t) (hd : Does done t.pipe d q) (hq : q = t.pipe.setLane e l)
    (hl : l.Mirrors (t.sent e) (t.received e.other) p)
    (hmet : ∀ x, d = .meet x none →
      ev = .attempt x (.read (.bytes [])) ∧ (t.pipe.lane x).source.isOver = true)
    (hshut : ∀ x, d = .shut x ↔ ∃ fault, ev = .shut x fault) :
    Mirrors (past ++ [ev]) (c.set e p) (done ++ [d]) { t with pipe := q } where
  stats := by
    rw [stats_set, h.stats, hq, stats_setLane]
  lane := by
    subst hq
    intro x
    obtain rfl | rfl := e.eq_or_eq_other x
    · simpa using hl
    · simpa using h.lane e.other
  met x hx := by
    rw [List.mem_append, List.mem_singleton] at hx
    rcases hx with hx | hx
    · obtain ⟨hr, ho⟩ := h.met x hx
      exact ⟨List.mem_append_left _ hr, isOver_does hd x ho⟩
    · obtain ⟨rfl, ho⟩ := hmet x hx.symm
      exact ⟨by simp, isOver_does hd x ho⟩
  shut x := by
    simp only [List.mem_append, List.mem_singleton, h.shut x, exists_or]
    refine or_congr Iff.rfl ?_
    rw [eq_comm, hshut x]
    simp only [eq_comm]

/-- Every deed of a pipe is something that happens in the relay. -/
theorem does {d : Deed} {q : Pipe} (h : Mirrors past c done t) (hd : Does done t.pipe d q) :
    ∃ ev c', Happens past c ev c' ∧
      Mirrors (past ++ [ev]) c' (done ++ [d]) { t with pipe := q } := by
  have hs : c.stats = none := h.stats.trans hd.running
  cases hd with
  | @move e l ht hm =>
    obtain ⟨a, p, ha, hl⟩ := (h.lane e).moves hm
    exact ⟨_, _, .attempt hs ha, h.set (.move ht hm) rfl hl (by simp) (by simp)⟩
  | @meet e fault ht hm =>
    obtain ⟨a, p, ha, hl, hnone⟩ := (h.lane e).meets hm
    refine ⟨_, _, .attempt hs ha, h.set (.meet ht hm) rfl hl ?_ (by simp)⟩
    rintro x ⟨⟩
    obtain ⟨rfl, ho⟩ := hnone rfl
    exact ⟨rfl, ho⟩
  | @cancel e ht ha ho =>
    have hca : (c.passage e).copy.isAlive = true := by rwa [(h.lane e).copy]
    have hco : (c.passage e.other).copy.isAlive = false := by rwa [(h.lane e.other).copy]
    exact ⟨_, _, .cancel hs hca hco,
      h.set (.cancel ht ha ho) rfl ((h.lane e).cancel ha) (by simp) (by simp)⟩
  | @shut e ht ha hn =>
    have hca : (c.passage e).copy.isAlive = false := by rwa [(h.lane e).copy]
    have hcn : ∀ fault, .shut e fault ∉ past := by
      intro fault hf
      exact hn ((h.shut e).2 ⟨fault, hf⟩)
    have hl : (t.pipe.lane e).shut.Mirrors (t.sent e) (t.received e.other) (c.passage e) :=
      (h.lane e).congr rfl rfl rfl
    have hshut (x : End) : Deed.shut e = .shut x ↔ ∃ fault, Event.shut e none = .shut x fault := by
      constructor
      · rintro ⟨⟩
        exact ⟨none, rfl⟩
      · rintro ⟨fault, ⟨⟩⟩
        rfl
    have hm := h.set (.shut ht ha hn) rfl hl (by simp) hshut
    rw [set_passage] at hm
    exact ⟨_, _, .shut hs hca hcn, hm⟩
  | @release ht hall =>
    refine ⟨_, _, .returned hs fun e => (h.shut e).1 (hall e), ?_, ?_, ?_, ?_⟩
    · show some c.report = some (.ofCopies t.pipe.toLocal t.pipe.toRemote)
      have hlocal : (c.passage .client).copy = t.pipe.toLocal := (h.lane .client).copy
      have hremote : (c.passage .service).copy = t.pipe.toRemote := (h.lane .service).copy
      rw [report, hlocal, hremote]
    · intro e
      simp only [Ordered.lane_release]
      exact (h.lane e).congr rfl rfl rfl
    · intro e he
      obtain ⟨hr, ho⟩ := h.met e (by simpa using he)
      exact ⟨List.mem_append_left _ hr, isOver_does (.release ht hall) e ho⟩
    · intro e
      simpa using h.shut e

end Mirrors

/-- Whatever becomes of a pipe in use, it is a course that a relay can take. -/
theorem Reaches.mirrored (h : Reaches inbound outbound done t) :
    ∃ past c, Runs past c ∧ Mirrors past c done t := by
  induction h with
  | start => exact ⟨[], _, .fresh, .fresh inbound outbound⟩
  | act e x _ ih =>
    obtain ⟨past, c, hr, hm⟩ := ih
    exact ⟨past, c, hr, hm.act e x⟩
  | deed _ hd ih =>
    obtain ⟨past, c, hr, hm⟩ := ih
    obtain ⟨ev, c', hh, hm'⟩ := hm.does hd
    exact ⟨past ++ [ev], c', hr.next hh, hm'⟩

/-- Behind the end of one copy the pipe can return. -/
theorem Reaches.finish {e : End} (h : Reaches inbound outbound done t) (hs : t.pipe.stats = none)
    (ho : (t.pipe.lane e).copy.isAlive = false) (hn : ∀ x, .shut x ∉ done) :
    ∃ more, Reaches inbound outbound (done ++ more) { t with pipe := t.pipe.finish } := by
  obtain ⟨more, hrow⟩ := row_finish hs ho hn
  exact ⟨more, h.row hrow⟩

/-- Behind the end of its source a direction has delivered and counted all that was sent. -/
theorem Mirrors.whole {stats : Stats} {e : End} (h : Mirrors past c done t)
    (hr : Reports past c e (stats.of e)) (hm : .meet e none ∈ done) :
    t.received e.other ++ (t.pipe.lane e).sink.buffer = t.sent e ∧
      stats.of e = (t.sent e).length := by
  obtain ⟨hread, hover⟩ := h.met e hm
  obtain ⟨hcount, hdel⟩ := hr.whole _ hread (.inl rfl)
  have hempty : (t.pipe.lane e).source.buffer = [] := by
    unfold Channel.isOver at hover
    rw [Bool.and_eq_true, List.isEmpty_iff] at hover
    exact hover.2
  have hsent : (c.passage e).delivered = t.sent e := by
    rw [hdel, ← (h.lane e).taken, hempty, List.append_nil]
  exact ⟨by rw [← (h.lane e).delivered, hsent], by rw [hcount, hsent]⟩

end Traffic

/-! ## What is reported -/

/-- A relay that has returned reports in each direction what was written in complete chunks, however
its copies ended: between streams of any kind, between two scripted ones that broke no copy, and
between streams in memory, where behind the end of its source a direction has delivered and counted
all that was sent. -/
theorem relay_statistics :
    (∀ past c stats, Runs past c → c.stats = some stats →
      ∀ e, Reports past c e (stats.of e)) ∧
    (∀ inbound outbound course stats, (relayScripts inbound outbound course).stats = some stats →
      (relayScripts inbound outbound course).toLocal.stage ≠ .crashed →
      (relayScripts inbound outbound course).toRemote.stage ≠ .crashed →
      ∃ past c, Runs past c ∧ (relayScripts inbound outbound course).ComesOf inbound outbound c ∧
        ∀ e, Reports past c e (stats.of e)) ∧
    ∀ inbound outbound done t stats, Traffic.Reaches inbound outbound done t →
      t.pipe.stats = some stats →
      ∃ past c, Runs past c ∧ t.Mirrors past c done ∧ ∀ e, Reports past c e (stats.of e) ∧
        (.meet e none ∈ done →
          t.received e.other ++ (t.pipe.lane e).sink.buffer = t.sent e ∧
            stats.of e = (t.sent e).length) := by
  have hall (past c stats) (hr : Runs past c) (hs : c.stats = some stats) (e : End) :
      Reports past c e (stats.of e) := hr.reports hs e
  refine ⟨hall, ?_, ?_⟩
  · intro inbound outbound course stats hs hlocal hremote
    obtain ⟨past, c, hr, hc⟩ := relayScripts_runs (by simp [hs]) hlocal hremote
    exact ⟨past, c, hr, hc, hall past c stats hr (hc.stats.trans hs)⟩
  · intro inbound outbound done t stats ht hs
    obtain ⟨past, c, hr, hm⟩ := ht.mirrored
    have hrep := hall past c stats hr (hm.stats.trans hs)
    exact ⟨past, c, hr, hm, fun e => ⟨hrep e, hm.whole (hrep e)⟩⟩

/-- The client gives five bytes, of which the service takes two. -/
def cutIn : Script := ⟨[.bytes [1, 2, 3, 4, 5]], [], .done, [], false⟩

/-- The service takes two bytes and then no more; it gives two bytes and comes to its end. -/
def cutOut : Script := ⟨[.bytes [8, 9], .bytes []], [.took 2, .waits], .done, [], false⟩

/-- The client writes a byte and shuts down, and the pipe has not acted yet. -/
def byteAndEnd : Traffic :=
  ((Traffic.fresh 4 4).act .client (.write [1])).act .client .shutdown

/-- The byte of the client crosses, and then its copy meets the end. -/
theorem byteAndEnd_finishes : ∃ more t, Traffic.Reaches 4 4
      ([.move .client, .move .client, .meet .client none] ++ more) t ∧
    t.pipe.stats = some ⟨1, 0⟩ ∧ t.sent .client = [1] := by
  have h₀ : Traffic.Reaches 4 4 [] byteAndEnd := .act _ _ (.act _ _ .start)
  have h₁ := h₀.deed (.move (e := .client) rfl (.read (by decide)))
  have h₂ := h₁.deed (.move (e := .client) rfl (.write (n := 1) (by decide +kernel)))
  have h₃ := h₂.deed (.meet (e := .client) rfl (.finished (by decide +kernel) (by decide +kernel)))
  obtain ⟨more, hr⟩ := h₃.finish (e := .client) rfl rfl (by simp)
  exact ⟨more, _, hr, by decide +kernel, by decide +kernel⟩

/-- A copy that is cancelled inside a chunk has counted nothing of it, and the other one counts all
it moved; behind its end a sender's byte is counted. -/
theorem relay_statistics_cut :
    (∃ past c, Runs past c ∧ Reports past c .client 0 ∧ Reports past c .service 2 ∧
      (c.passage .client).delivered = [1, 2] ∧ (c.passage .client).taken = [1, 2, 3, 4, 5]) ∧
    ∃ past c, Runs past c ∧ Reports past c .client 1 ∧ (c.passage .client).delivered = [1] := by
  refine ⟨?_, ?_⟩
  · obtain ⟨past, c, hr, hc, hrep⟩ := relay_statistics.2.1 cutIn cutOut {} ⟨0, 2⟩ (by decide +kernel)
      (by decide +kernel) (by decide +kernel)
    have hd : (c.passage .client).delivered = [1, 2] := by
      have hw := hc.writtenOut
      have hp : (relayScripts cutIn cutOut).outbound.written = [1, 2] := by decide +kernel
      rw [hp] at hw
      exact hw.symm
    refine ⟨past, c, hr, hrep .client, hrep .service, hd, ?_⟩
    obtain ⟨k, hk⟩ := hc.gaveIn
    have hreads : cutIn.reads.flatMap ReadOutcome.split = [.bytes [1, 2, 3, 4, 5]] := by
      decide +kernel
    rw [hreads] at hk
    have hpre := (hrep .client).balances.front
    rw [hd, Passage.taken, hk] at hpre
    rw [Passage.taken, hk]
    cases k with
    | zero => simp at hpre
    | succ k =>
      rw [List.take_of_length_le (by simp)]
      rfl
  · obtain ⟨more, t, ht, hs, hsent⟩ := byteAndEnd_finishes
    obtain ⟨past, c, hr, hm, hrep⟩ := relay_statistics.2.2 4 4 _ t ⟨1, 0⟩ ht hs
    obtain ⟨hclient, hwhole⟩ := hrep .client
    obtain ⟨hdel, -⟩ := hwhole (by simp)
    refine ⟨past, c, hr, hclient, ?_⟩
    rw [(hm.lane .client).delivered, hdel, hsent]

end Tether.Relay
