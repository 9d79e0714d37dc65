import Mathlib.Logic.Function.Basic
import Tether.Proofs.Relay.Deed
import Tether.Proofs.Relay.Passage

/-!
A relay between any two streams: two passages, one for each direction, at work in any order. A copy
makes attempts with whatever outcome its streams give; it may be cancelled once the other one has
ended; behind its end it shuts its sink down, well or badly; and when both have done so the relay
returns with what it counted. `Crossing.Runs` is every course that this can take. The books of both
passages are kept in it (`Runs.ledger`), and a relay that has returned reports on each direction
what the books say, also where a copy failed or was cancelled (`Runs.reports`).
-/

namespace Tether.Relay

open Tether.Net Pipe Function

/-- What was moved in the direction in which an end sends. -/
def Stats.of (s : Stats) : End → Nat
  | .client => s.toLocal
  | .service => s.toRemote

/-- Two passages, each named by the end whose bytes it carries, and what the relay has returned. -/
structure Crossing where
  passage : End → Passage
  stats : Option Stats

/-- One thing that happens in a relay. -/
inductive Event
  | attempt (sender : End) (attempt : Attempt)
  | cancel (sender : End)
  /-- The sink is shut down, perhaps with a fault. -/
  | shut (sender : End) (fault : Option Fault)
  | returned
  deriving DecidableEq, Repr

namespace Crossing

/-- A relay in which nothing has happened yet. -/
def fresh : Crossing := ⟨fun _ => .fresh, none⟩

/-- Replaces a passage. -/
def set (c : Crossing) (e : End) (p : Passage) : Crossing :=
  { c with passage := update c.passage e p }

/-- What a relay returns with. -/
def report (c : Crossing) : Stats :=
  .ofCopies (c.passage .client).copy (c.passage .service).copy

@[simp] theorem passage_set (c : Crossing) (e : End) (p : Passage) : (c.set e p).passage e = p :=
  update_self ..

@[simp] theorem passage_set_other (c : Crossing) (e : End) (p : Passage) :
    (c.set e p).passage e.other = c.passage e.other := update_of_ne e.other_ne ..

@[simp] theorem stats_set (c : Crossing) (e : End) (p : Passage) : (c.set e p).stats = c.stats :=
  rfl

@[simp] theorem set_set (c : Crossing) (e : End) (p q : Passage) :
    (c.set e p).set e q = c.set e q := by simp [set]

@[simp] theorem set_passage (c : Crossing) (e : End) : c.set e (c.passage e) = c := by simp [set]

/-- What can be said of a passage, with one of the two changed. -/
theorem forall_set {P : End → Passage → Prop} {c : Crossing} {e : End} {p : Passage} (hp : P e p)
    (ho : P e.other (c.passage e.other)) (x : End) : P x ((c.set e p).passage x) := by
  obtain rfl | rfl := e.eq_or_eq_other x
  · rwa [passage_set]
  · rwa [passage_set_other]

/-- What can happen in a relay that has not returned, behind what has happened in it. -/
inductive Happens (past : List Event) (c : Crossing) : Event → Crossing → Prop
  | attempt {e : End} {a : Attempt} {p : Passage} : c.stats = none →
      (c.passage e).Tries a p → Happens past c (.attempt e a) (c.set e p)
  | cancel {e : End} : c.stats = none → (c.passage e).copy.isAlive = true →
      (c.passage e.other).copy.isAlive = false →
      Happens past c (.cancel e) (c.set e (c.passage e).cancel)
  | shut {e : End} {fault : Option Fault} : c.stats = none →
      (c.passage e).copy.isAlive = false → (∀ f, .shut e f ∉ past) →
      Happens past c (.shut e fault) c
  | returned : c.stats = none → (∀ e, ∃ fault, .shut e fault ∈ past) →
      Happens past c .returned { c with stats := some c.report }

/-- Every course of a relay, by what has happened in it. -/
inductive Runs : List Event → Crossing → Prop
  | fresh : Runs [] fresh
  | next {past : List Event} {c c' : Crossing} {ev : Event} :
      Runs past c → Happens past c ev c' → Runs (past ++ [ev]) c'

variable {past : List Event} {c c' : Crossing} {ev : Event}

/-- A row of attempts of one copy. -/
theorem Runs.attempts {e : End} {as : List Attempt} {p : Passage} (h : Runs past c)
    (hs : c.stats = none) (hr : (c.passage e).Row as p) :
    Runs (past ++ as.map (.attempt e)) (c.set e p) := by
  -- on the row, whose first attempt is made now
  generalize hq : c.passage e = q at hr
  induction hr generalizing past c with
  | refl =>
    rw [← hq, set_passage, List.map_nil, List.append_nil]
    exact h
  | @head q m p a as ht _ ih =>
    have hn : Runs (past ++ [.attempt e a]) (c.set e m) := h.next (.attempt hs (hq ▸ ht))
    have hrest := ih hn hs (passage_set c e m)
    rw [set_set] at hrest
    rwa [List.map_cons, ← List.singleton_append, ← List.append_assoc]

/-! ## The books of both directions -/

/-- What has happened agrees with the books. -/
structure Ledger (past : List Event) (c : Crossing) : Prop where
  kept : ∀ e, (c.passage e).Kept
  /-- Behind a read that ended a copy all is delivered and counted. -/
  whole : ∀ e r, .attempt e (.read r) ∈ past → r.Ends →
    (c.passage e).copy.isAlive = false ∧ (c.passage e).delivered = (c.passage e).taken ∧
      (c.passage e).copy.total = (c.passage e).delivered.length
  /-- A copy has moved nothing since its sink was shut down. -/
  shut : ∀ e fault, .shut e fault ∈ past → (c.passage e).copy.isAlive = false ∧
    ∃ before after c₀, past = before ++ .shut e fault :: after ∧ Runs before c₀ ∧
      c₀.passage e = c.passage e
  returned : ∀ stats, c.stats = some stats →
    stats = c.report ∧ ∀ e, ∃ fault, .shut e fault ∈ past

namespace Ledger

theorem fresh : Ledger [] fresh where
  kept _ := Passage.kept_fresh
  whole _ _ h := absurd h List.not_mem_nil
  shut _ _ h := absurd h List.not_mem_nil
  returned _ h := nomatch h

/-- A passage whose copy goes on may change, if the books of the passage are kept. -/
theorem set {e : End} {p : Passage} (h : Ledger past c) (hs : c.stats = none)
    (ha : (c.passage e).copy.isAlive = true) (hshut : ∀ x fault, ev ≠ .shut x fault)
    (hother : ∀ r, ev ≠ .attempt e.other (.read r)) (hk : p.Kept)
    (hw : ∀ r, ev = .attempt e (.read r) → r.Ends →
      p.copy.isAlive = false ∧ p.delivered = p.taken ∧ p.copy.total = p.delivered.length) :
    Ledger (past ++ [ev]) (c.set e p) where
  kept := forall_set (P := fun _ p => p.Kept) hk (h.kept e.other)
  whole := by
    refine forall_set (P := fun x p => ∀ r, .attempt x (.read r) ∈ past ++ [ev] → r.Ends →
      p.copy.isAlive = false ∧ p.delivered = p.taken ∧ p.copy.total = p.delivered.length) ?_ ?_
    · intro r hr hends
      rw [List.mem_append, List.mem_singleton] at hr
      rcases hr with hr | hr
      · -- the copy would have ended before
        have hdead := (h.whole e r hr hends).1
        rw [ha] at hdead
        cases hdead
      · exact hw r hr.symm hends
    · intro r hr hends
      rw [List.mem_append, List.mem_singleton] at hr
      rcases hr with hr | hr
      · exact h.whole e.other r hr hends
      · exact absurd hr.symm (hother r)
  shut x fault hx := by
    rw [List.mem_append, List.mem_singleton] at hx
    have hx : .shut x fault ∈ past := hx.resolve_right (Ne.symm (hshut x fault))
    obtain ⟨hdead, before, after, c₀, hpast, hr, hp⟩ := h.shut x fault hx
    have hne : x ≠ e := by
      rintro rfl
      rw [ha] at hdead
      cases hdead
    have hsame : (c.set e p).passage x = c.passage x := update_of_ne hne ..
    rw [hsame]
    refine ⟨hdead, before, after ++ [ev], c₀, ?_, hr, hp⟩
    rw [hpast, List.append_assoc, List.cons_append]
  returned stats hr := by
    rw [stats_set, hs] at hr
    cases hr

/-- Everything that happens agrees with the books. -/
theorem happens (h : Ledger past c) (hr : Runs past c) (hh : Happens past c ev c') :
    Ledger (past ++ [ev]) c' := by
  cases hh with
  | @attempt e a p hs ht =>
    refine h.set hs ht.alive ?_ ?_ ((h.kept e).tries ht) ?_
    · intro x fault hx
      cases hx
    · intro r hx
      exact e.other_ne (Event.attempt.inj hx).1.symm
    · rintro r ⟨⟩ hends
      exact ht.whole (h.kept e) hends
  | @cancel e hs ha _ =>
    refine h.set hs ha ?_ ?_ (h.kept e).cancel ?_
    · intro x fault hx
      cases hx
    · intro r hx
      cases hx
    · intro r hx
      cases hx
  | @shut e fault hs hdead hnew =>
    refine ⟨h.kept, ?_, ?_, ?_⟩
    · intro x r hx
      exact h.whole x r (by simpa using hx)
    · intro x f hx
      rw [List.mem_append, List.mem_singleton] at hx
      rcases hx with hx | hx
      · obtain ⟨hd, before, after, c₀, hpast, hr₀, hp⟩ := h.shut x f hx
        refine ⟨hd, before, after ++ [.shut e fault], c₀, ?_, hr₀, hp⟩
        rw [hpast, List.append_assoc, List.cons_append]
      · cases hx
        exact ⟨hdead, past, [], c, rfl, hr, rfl⟩
    · intro stats hst
      rw [hs] at hst
      cases hst
  | returned hs hall =>
    refine ⟨h.kept, ?_, ?_, ?_⟩
    · intro x r hx
      exact h.whole x r (by simpa using hx)
    · intro x f hx
      obtain ⟨hd, before, after, c₀, hpast, hr₀, hp⟩ := h.shut x f (by simpa using hx)
      refine ⟨hd, before, after ++ [.returned], c₀, ?_, hr₀, hp⟩
      rw [hpast, List.append_assoc, List.cons_append]
    · rintro stats ⟨⟩
      refine ⟨rfl, fun e => ?_⟩
      obtain ⟨fault, hf⟩ := hall e
      exact ⟨fault, List.mem_append_left _ hf⟩

end Ledger

theorem Runs.ledger (h : Runs past c) : Ledger past c := by
  induction h with
  | fresh => exact .fresh
  | next hr hh ih => exact ih.happens hr hh

/-! ## What a relay returns with -/

/-- What a relay that has returned counted in the direction in which an end sends. -/
structure Reports (past : List Event) (c : Crossing) (e : End) (count : Nat) : Prop where
  balances : (c.passage e).Balances count
  /-- If the source came to its end or reading failed, all that was taken was delivered and
  counted. -/
  whole : ∀ r, .attempt e (.read r) ∈ past → r.Ends →
    count = (c.passage e).delivered.length ∧ (c.passage e).delivered = (c.passage e).taken
  /-- All that was moved was moved and counted before the sink was shut down. -/
  shut : ∃ before fault after c₀, past = before ++ .shut e fault :: after ∧ Runs before c₀ ∧
    c₀.passage e = c.passage e

theorem of_report (c : Crossing) (e : End) :
    c.report.of e = (c.passage e).copy.counted := by
  cases e <;> rfl

theorem Runs.reports {stats : Stats} (h : Runs past c) (hs : c.stats = some stats) (e : End) :
    Reports past c e (stats.of e) := by
  have hl := h.ledger
  obtain ⟨rfl, hall⟩ := hl.returned stats hs
  have hcount : c.report.of e = (c.passage e).copy.total := by
    rw [of_report, (hl.kept e).counted]
  rw [hcount]
  refine ⟨(hl.kept e).balances, ?_, ?_⟩
  · intro r hr hends
    obtain ⟨-, hd, ht⟩ := hl.whole e r hr hends
    exact ⟨ht, hd⟩
  · obtain ⟨fault, hf⟩ := hall e
    obtain ⟨-, before, after, c₀, hpast, hr, hp⟩ := hl.shut e fault hf
    exact ⟨before, fault, after, c₀, hpast, hr, hp⟩

/-! ## Coming to the end -/

/-- Behind the end of one copy the other is over too, cancelled if need be. -/
theorem Runs.cancelled {e : End} (h : Runs past c) (hs : c.stats = none)
    (ho : (c.passage e.other).copy.isAlive = false) (hnew : ∀ x fault, .shut x fault ∉ past) :
    ∃ past', Runs past' (c.set e (c.passage e).cancel) ∧ ∀ x fault, .shut x fault ∉ past' := by
  by_cases ha : (c.passage e).copy.isAlive = true
  · refine ⟨past ++ [.cancel e], h.next (.cancel hs ha ho), ?_⟩
    intro x fault hx
    exact hnew x fault (by simpa using hx)
  · rw [Passage.cancel_of_over (eq_false_of_ne_true ha), set_passage]
    exact ⟨past, h, hnew⟩

/-- When one copy is over the relay can come to its end: it cancels the other one, shuts both sinks
down and returns. -/
theorem Runs.concludes {e : End} (h : Runs past c) (hs : c.stats = none)
    (ho : (c.passage e.other).copy.isAlive = false) (hnew : ∀ x fault, .shut x fault ∉ past) :
    ∃ past', Runs past' { c.set e (c.passage e).cancel with
      stats := some (c.set e (c.passage e).cancel).report } := by
  obtain ⟨past', hr, hnew'⟩ := h.cancelled hs ho hnew
  have hover : ∀ x, ((c.set e (c.passage e).cancel).passage x).copy.isAlive = false :=
    forall_set (P := fun _ p => p.copy.isAlive = false) (isAlive_cancel _) ho
  have h₁ : Runs (past' ++ [.shut .client none]) (c.set e (c.passage e).cancel) :=
    hr.next (.shut hs (hover .client) (hnew' .client))
  have h₂ : Runs (past' ++ [.shut .client none] ++ [.shut .service none])
      (c.set e (c.passage e).cancel) :=
    h₁.next (.shut hs (hover .service) (by simp [hnew']))
  refine ⟨_, h₂.next (.returned hs ?_)⟩
  intro x
  cases x with
  | client => exact ⟨none, by simp⟩
  | service => exact ⟨none, by simp⟩

/-- A row of attempts in each direction, of which the second one ends its copy: the relay can come to
its end with them. -/
theorem Runs.of_ended {e : End} {as bs : List Attempt} {p q : Passage}
    (hp : Passage.fresh.Row as p) (hq : Passage.fresh.Row bs q) (ho : q.copy.isAlive = false) :
    ∃ past c, Runs past c ∧ c.passage e = p.cancel ∧ c.passage e.other = q ∧
      c.stats = some c.report := by
  have h₁ := Runs.fresh.attempts (e := e) rfl hp
  have h₂ := h₁.attempts (e := e.other) rfl (by rwa [passage_set_other])
  have hover : ((Crossing.fresh.set e p).set e.other q).passage e.other = q := passage_set ..
  have hfirst : ((Crossing.fresh.set e p).set e.other q).passage e = p := by
    have hkeep := passage_set_other (Crossing.fresh.set e p) e.other q
    rwa [End.other_other, passage_set] at hkeep
  obtain ⟨past, h₃⟩ := h₂.concludes (e := e) rfl (by rwa [hover]) (by simp)
  rw [hfirst] at h₃
  exact ⟨past, _, h₃, passage_set .., (passage_set_other ..).trans hover, rfl⟩

/-- A row of attempts in each direction, one of which ends its copy. -/
theorem Runs.of_rows {e : End} {as bs : List Attempt} {p q : Passage}
    (hp : Passage.fresh.Row as p) (hq : Passage.fresh.Row bs q)
    (ho : p.copy.isAlive = false ∨ q.copy.isAlive = false) :
    ∃ past c, Runs past c ∧ c.passage e = p.cancel ∧ c.passage e.other = q.cancel ∧
      c.stats = some c.report := by
  rcases ho with ho | ho
  · obtain ⟨past, c, hr, hother, he, hs⟩ := Runs.of_ended (e := e.other) hq hp ho
    rw [End.other_other] at he
    exact ⟨past, c, hr, by rw [he, Passage.cancel_of_over ho], hother, hs⟩
  · obtain ⟨past, c, hr, he, hother, hs⟩ := Runs.of_ended (e := e) hp hq ho
    exact ⟨past, c, hr, he, by rw [hother, Passage.cancel_of_over ho], hs⟩

end Crossing

end Tether.Relay
