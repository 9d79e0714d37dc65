import Tether.Proofs.Relay.Traffic

/-!
How a pipe goes on and how it comes to its end. The pipe cannot work for ever on what its ends have
given it, and whatever it does first it comes to rest (`Pipe.exists_settled`). At rest both copies
go on, each waiting for one of the ends, or the pipe has returned; it returns exactly when one of
its copies has met the end of its source or a fault, and not before. Behind the return both writers
are shut down behind their last write, and each end reads what is buffered for it, then the end, and
breaks on a write. `Traffic.teardown` says so of every moment that steps of the ends and deeds of
the pipe can lead to.
-/

namespace Tether.Net.Channel

/-- From a closed channel a reader gets all that is buffered, and then the end. -/
theorem drain_of_closed {c : Channel} (h : c.closed = true) :
    (c.drain none).2 = (c.buffer, .ended) := by
  unfold drain
  rw [if_pos h]

end Tether.Net.Channel

namespace Tether.Relay

open Tether.Net

namespace Pipe

variable {done : List Deed} {p p' : Pipe} {d : Deed}

/-- From everywhere a row of deeds leads to where no deed is possible. -/
theorem exists_settled (done : List Deed) (p : Pipe) :
    ∃ done' p', Row done p done' p' ∧ Settled done' p' := by
  -- on what is left to do, of which every deed leaves less
  induction h : effort done p using Nat.strongRecOn generalizing done p with
  | _ n ih =>
    by_cases hset : Settled done p
    · exact ⟨done, p, .refl, hset⟩
    · obtain ⟨d, p', hd⟩ : ∃ d p', Does done p d p' := by
        simpa [Settled] using hset
      obtain ⟨done'', p'', hr, hset⟩ := ih _ (h ▸ hd.effort_lt) (done ++ [d]) p' rfl
      exact ⟨done'', p'', (Row.refl.tail hd).trans hr, hset⟩

/-- Where the lane that is replaced keeps closed what is closed, the pipe does. -/
theorem keepsClosed_setLane {e : End} {l : Lane} (hl : (p.lane e).KeepsClosed l) (x : End) :
    (p.lane x).KeepsClosed ((p.setLane e l).lane x) :=
  forall_setLane (P := fun x l => (p.lane x).KeepsClosed l) hl ⟨id, id⟩ x

/-- No deed opens a channel. -/
theorem Does.keepsClosed (hd : Does done p d p') (e : End) :
    (p.lane e).KeepsClosed (p'.lane e) := by
  cases hd with
  | move _ hm => exact keepsClosed_setLane ⟨hm.closed.1.trans, hm.closed.2.trans⟩ e
  | meet _ _ =>
    refine keepsClosed_setLane ?_ e
    exact ⟨id, id⟩
  | cancel _ _ _ =>
    refine keepsClosed_setLane ?_ e
    exact ⟨id, id⟩
  | shut _ _ _ =>
    refine keepsClosed_setLane ?_ e
    exact ⟨id, fun _ => rfl⟩
  | release _ _ =>
    rw [Ordered.lane_release]
    exact ⟨fun _ => rfl, fun _ => rfl⟩

/-- Behind its return an end that writes finds the channel broken. -/
theorem write_of_closed {e : End} (h : (p.lane e).source.closed = true) (bytes : List UInt8) :
    (p.write e bytes).2 = .broken := by
  cases e <;> exact Channel.write_broken.2 h

/-- An end whose way in is closed reads all that is buffered for it, and then the end. -/
theorem read_of_closed {e : End} (h : (p.lane e.other).sink.closed = true) :
    (p.read e none).2 = ((p.lane e.other).sink.buffer, .ended) := by
  cases e <;> exact Channel.drain_of_closed h

end Pipe

namespace Traffic

open Pipe Function

variable {inbound outbound : Nat} {done : List Deed} {t : Traffic}

/-! ## What the ends have closed -/

/-- An end that writes no more has closed its way out, and one that has gone away its way in too. -/
structure Closes (t : Traffic) : Prop where
  quiet : ∀ e, t.quiet e = true → (t.pipe.lane e).source.closed = true
  gone : ∀ e, t.gone e = true → t.quiet e = true ∧ (t.pipe.lane e.other).sink.closed = true

/-- What is closed stays closed. -/
theorem Closes.mono {p : Pipe} (h : t.Closes) (hp : ∀ e, (t.pipe.lane e).KeepsClosed (p.lane e)) :
    Closes { t with pipe := p } where
  quiet e he := (hp e).1 (h.quiet e he)
  gone e he := ⟨(h.gone e he).1, (hp e.other).2 (h.gone e he).2⟩

/-- An end that was not quiet becomes so by closing its way out. -/
theorem quiet_act (t : Traffic) (e : End) (x : Act) (y : End) :
    (t.quiet y = true → (t.act e x).quiet y = true) ∧
      ((t.act e x).quiet y = true →
        t.quiet y = true ∨ ((t.act e x).pipe.lane y).source.closed = true) := by
  unfold Traffic.act
  split
  · exact ⟨id, .inl⟩
  · obtain rfl | rfl := e.eq_or_eq_other y
    · cases x with
      | write _ | read _ => exact ⟨id, .inl⟩
      | shutdown | drop => simp
    · cases x with
      | write _ | read _ => exact ⟨id, .inl⟩
      | shutdown | drop =>
        simp only [update_of_ne e.other_ne]
        exact ⟨id, .inl⟩

/-- An end goes away by closing both its ways. -/
theorem gone_act (t : Traffic) (e : End) (x : Act) (y : End) (h : (t.act e x).gone y = true) :
    t.gone y = true ∨
      (t.act e x).quiet y = true ∧ ((t.act e x).pipe.lane y.other).sink.closed = true := by
  unfold Traffic.act at h ⊢
  split at h
  · exact .inl h
  · rename_i hg
    rw [if_neg hg]
    obtain rfl | rfl := e.eq_or_eq_other y
    · cases x with
      | drop => exact .inr (by simp)
      | _ => exact .inl h
    · cases x with
      | drop => exact .inl (by simpa [update_of_ne] using h)
      | _ => exact .inl h

theorem Closes.act (h : t.Closes) (e : End) (x : Act) : (t.act e x).Closes where
  quiet y hy := by
    obtain hq | hc := (quiet_act t e x y).2 hy
    · exact (lane_act t e x y).2.1 (h.quiet y hq)
    · exact hc
  gone y hy := by
    obtain hg | hc := gone_act t e x y hy
    · exact ⟨(quiet_act t e x y).1 (h.gone y hg).1, (lane_act t e x y.other).2.2 (h.gone y hg).2⟩
    · exact hc

theorem Reaches.closes (h : Reaches inbound outbound done t) : t.Closes := by
  induction h with
  | start =>
    refine ⟨?_, ?_⟩
    · intro e he
      cases he
    · intro e he
      cases he
  | act e x _ ih => exact ih.act e x
  | deed _ hd ih => exact ih.mono hd.keepsClosed

/-! ## At rest -/

/-- Both copies go on, and each waits for one of the ends. -/
structure Waiting (t : Traffic) : Prop where
  running : t.pipe.stats = none
  alive : ∀ e, (t.pipe.lane e).copy.isAlive = true
  /-- The copy has read all that its sender sent, and more may come; or its sink is full, and the
  receiver may still make room. -/
  blocked : ∀ e,
    ((t.pipe.lane e).source.buffer = [] ∧ t.quiet e = false ∧ t.gone e = false) ∨
      ((t.pipe.lane e).sink.room = 0 ∧ t.gone e.other = false)

/-- The pipe has returned behind these deeds. -/
structure Returned (done : List Deed) (t : Traffic) : Prop where
  returned : t.pipe.stats ≠ none
  ended : ∀ e, (t.pipe.lane e).copy.isAlive = false
  /-- Both writers were shut down. -/
  shut : ∀ e, .shut e ∈ done
  /-- Behind its shutdown a writer has written nothing. -/
  last : done.Pairwise fun d d' => ∀ e, d = .shut e → d' ≠ .move e
  /-- An end reads what is buffered for it and then the end. -/
  reads : ∀ e, (t.pipe.read e none).2 = ((t.pipe.lane e.other).sink.buffer, .ended)
  /-- An end that writes finds the channel broken. -/
  writes : ∀ e bytes, (t.pipe.write e bytes).2 = .broken

theorem Reaches.waiting (h : Reaches inbound outbound done t) (hset : Settled done t.pipe)
    (hs : t.pipe.stats = none) : t.Waiting where
  running := hs
  alive := hset.alive hs
  blocked e := by
    have hc := h.closes
    obtain ⟨hb, ho⟩ | ⟨hr, ho⟩ := hset.blocked hs e
    · have hq : t.quiet e = false := by
        rw [Bool.eq_false_iff]
        intro hq
        rw [hc.quiet e hq] at ho
        cases ho
      have hg : t.gone e = false := by
        rw [Bool.eq_false_iff]
        intro hg
        rw [(hc.gone e hg).1] at hq
        cases hq
      exact .inl ⟨hb, hq, hg⟩
    · refine .inr ⟨hr, ?_⟩
      rw [Bool.eq_false_iff]
      intro hg
      have := (hc.gone e.other hg).2
      rw [End.other_other, ho] at this
      cases this

theorem Reaches.returned (h : Reaches inbound outbound done t) (hs : t.pipe.stats ≠ none) :
    Returned done t where
  returned := hs
  ended := h.ordered.ended_of_returned hs
  shut e := (h.ordered.returned hs e).1
  last := h.ordered.last
  reads e := read_of_closed (h.ordered.shut e.other (h.ordered.returned hs e.other).1).2
  writes e bytes := write_of_closed (h.ordered.returned hs e).2 bytes

/-- What a moment of a pipe in use promises, behind the deeds the pipe has done. -/
structure Orderly (done : List Deed) (t : Traffic) : Prop where
  /-- Only so many deeds can follow before an end does something again. -/
  bounded : ∀ done' p', Row done t.pipe done' p' →
    done'.length ≤ done.length + effort done t.pipe
  /-- Some of them lead to where the pipe is at rest. -/
  settles : ∃ done' p', Row done t.pipe done' p' ∧ Settled done' p'
  /-- Before a copy meets the end of its source or a fault, nothing comes to an end. -/
  before : (∀ e fault, .meet e fault ∉ done) →
    t.pipe.stats = none ∧ ∀ e, (t.pipe.lane e).copy.isAlive = true ∧ .shut e ∉ done
  /-- At rest both copies go on, or the pipe has returned because one of them met its end. -/
  rest : Settled done t.pipe →
    (t.Waiting ∧ ∀ e fault, .meet e fault ∉ done) ∨
      (Returned done t ∧ ∃ e fault, .meet e fault ∈ done)

theorem Reaches.orderly (h : Reaches inbound outbound done t) : Orderly done t where
  bounded done' p' hr := by
    have := hr.length_le
    omega
  settles := exists_settled done t.pipe
  before hn := by
    have hm : ¬∃ e fault, .meet e fault ∈ done := by
      rintro ⟨e, fault, hm⟩
      exact hn e fault hm
    have ha (e : End) : (t.pipe.lane e).copy.isAlive = true := by
      rw [← Bool.not_eq_false]
      exact fun ho => hm (h.ordered.met ho)
    refine ⟨?_, fun e => ⟨ha e, h.ordered.not_shut (ha e)⟩⟩
    refine Decidable.byContradiction fun hs => ?_
    exact hm (h.ordered.met (h.ordered.ended_of_returned hs .client))
  rest hset := by
    have hmet := hset.returned_iff_met h.ordered
    by_cases hs : t.pipe.stats = none
    · refine .inl ⟨h.waiting hset hs, fun e fault hm => ?_⟩
      exact hmet.2 ⟨e, fault, hm⟩ hs
    · exact .inr ⟨h.returned hs, hmet.1 hs⟩

/-- Between streams of any capacities a pipe goes on and comes to its end in order, whatever steps
its ends take and whatever it does first; and behind every list of steps it is at rest at such a
moment. -/
theorem teardown (inbound outbound : Nat) :
    (∀ done t, Reaches inbound outbound done t → Orderly done t) ∧
      ∀ steps, ∃ done, Reaches inbound outbound done (run inbound outbound steps) ∧
        Settled done (run inbound outbound steps).pipe :=
  ⟨fun _ _ h => h.orderly, reaches_run inbound outbound⟩

/-- The client shuts down behind a byte in each direction. -/
def concluded : Traffic :=
  run 4 4 [(.client, .write [1]), (.service, .write [2]), (.client, .shutdown)]

/-- Behind the shutdown of the client the pipe has returned, and each end still reads its byte. -/
theorem teardown_concluded :
    ∃ done, Returned done concluded ∧ (∃ e fault, .meet e fault ∈ done) ∧
      (concluded.pipe.read .service none).2 = ([1], .ended) ∧
      (concluded.pipe.read .client none).2 = ([2], .ended) := by
  obtain ⟨done, hr, hset⟩ := (teardown 4 4).2
    [(.client, .write [1]), (.service, .write [2]), (.client, .shutdown)]
  have hs : concluded.pipe.stats = some ⟨1, 1⟩ := by decide +kernel
  obtain ⟨hw, -⟩ | ⟨hret, hmet⟩ := ((teardown 4 4).1 done concluded hr).rest hset
  · rw [hw.running] at hs
    cases hs
  · exact ⟨done, hret, hmet, by decide +kernel, by decide +kernel⟩

end Traffic

end Tether.Relay
