import Tether.Proofs.Relay.Teardown

/-!
What becomes of a pipe does not depend on which copy goes first, nor on whether a copy that could
still move bytes hears of the other one's end before it does. The reason is that a settled pipe has
nothing to move, and that one step of an end gives work to one copy at most: when either copy meets
its end, both have moved all that they could (`Pipe.Calm`, `Pipe.Yields`). So all orders of deeds
come to the same bytes in the four channels, the same channels closed, the same decision to return
and the same counts: `Traffic.outcome_unique`. What may differ is the fault that a copy reports, for
a copy whose sink breaks may meet the fault or be cancelled before.
-/

namespace Tether.Relay

open Tether.Net Relation

namespace Lane

/-! ## Where moving bytes comes to -/

/-- No attempt moves bytes. -/
def Still (l : Lane) : Prop := ∀ l', ¬Moves l l'

/-- A copy has no choice in what it moves. -/
theorem Moves.unique {l m m' : Lane} (h : Moves l m) (h' : Moves l m') : m = m' := by
  cases h with
  | read _ =>
    cases h' with
    | read _ => rfl
  | @write left size total n source sink ht =>
    cases h' with
    | @write _ _ _ n' _ _ ht' =>
      have hn : n = n' := by
        rw [ht] at ht'
        exact Written.took.inj ht'
      rw [hn]

theorem Meets.still {l : Lane} {fault : Option Fault} (h : Meets l fault) : l.Still := by
  intro l' hm
  cases h with
  | finished hb _ =>
    cases hm with
    | read hb' => exact hb' hb
  | broken hc =>
    cases hm with
    | write ht =>
      have ho := (Channel.write_took ht).1
      rw [hc] at ho
      cases ho

theorem still_of_not_alive {l : Lane} (h : l.copy.isAlive = false) : l.Still :=
  (stuck_of_not_alive h).1

/-- A copy that is still stays where it is. -/
theorem Still.eq {l m : Lane} (h : l.Still) (hm : ReflTransGen Moves l m) : m = l := by
  obtain he | ⟨l', hl, -⟩ := hm.cases_head
  · exact he.symm
  · exact absurd hl (h l')

/-- However far a copy has come, it becomes still in one place only. -/
theorem Still.unique {l m m' : Lane} (hm : ReflTransGen Moves l m) (h : m.Still)
    (hm' : ReflTransGen Moves l m') (h' : m'.Still) : m = m' := by
  have hright : Relator.RightUnique Moves := fun _ _ _ h₁ h₂ => h₁.unique h₂
  obtain hle | hle := ReflTransGen.total_of_right_unique hright hm hm'
  · exact (h.eq hle).symm
  · exact h'.eq hle

/-- To close a source gives a copy nothing to move. -/
theorem Still.close_source {l : Lane} (h : l.Still) :
    Still { l with source := l.source.close } := by
  obtain ⟨⟨stage, total⟩, source, sink⟩ := l
  intro l' hm
  cases hm with
  | read hb => exact h _ (.read hb)
  | write ht => exact h _ (.write ht)

/-- To close a sink gives a copy no room. -/
theorem Still.close_sink {l : Lane} (h : l.Still) : Still { l with sink := l.sink.close } := by
  obtain ⟨⟨stage, total⟩, source, sink⟩ := l
  intro l' hm
  cases hm with
  | read hb => exact h _ (.read hb)
  | write ht =>
    have ho := (Channel.write_took ht).1
    rw [Channel.closed_close] at ho
    cases ho

/-! ## What an ended copy leaves -/

/-- A lane shows the count and the bytes of another, whatever is closed. -/
structure Holds (l m : Lane) : Prop where
  counted : l.copy.counted = m.copy.total
  source : l.source.close = m.source.close
  sink : l.sink.close = m.sink.close

theorem Holds.ended (l : Lane) (fault : Option Fault) : (l.ended fault).Holds l := ⟨rfl, rfl, rfl⟩

theorem Holds.shut {l m : Lane} (h : l.Holds m) : l.shut.Holds m :=
  ⟨h.counted, h.source, h.sink⟩

/-- The lane shows what its copy came to when it had moved all that it could. -/
def Exhausts (l₀ l : Lane) : Prop := ∃ m, ReflTransGen Moves l₀ m ∧ m.Still ∧ l.Holds m

end Lane

namespace Pipe

open Lane

variable {done done' done'' : List Deed} {p₀ p p' p'' : Pipe} {d : Deed}

theorem Row.eq_of_settled (h : Row done p done' p') (hset : Settled done p) : p' = p := by
  have hall : done' = done ∧ p' = p := by
    induction h with
    | refl => exact ⟨rfl, rfl⟩
    | tail _ hd ih =>
      obtain ⟨rfl, rfl⟩ := ih
      exact absurd hd (hset _ _)
  exact hall.2

/-! ## Rows of deeds from a calm pipe -/

/-- One copy has nothing to move, and if that one meets its end, the other has nothing to move
either. -/
structure Calm (p : Pipe) : Prop where
  running : p.stats = none
  alive : ∀ e, (p.lane e).copy.isAlive = true
  still : ∃ e, (p.lane e).Still ∧ ((p.lane e).Stuck ∨ (p.lane e.other).Still)

/-- What deeds can make of a pipe. -/
structure Yields (p₀ p : Pipe) : Prop where
  /-- A copy that goes on has done nothing but move bytes. -/
  alive : ∀ e, (p.lane e).copy.isAlive = true → ReflTransGen Moves (p₀.lane e) (p.lane e)
  /-- A copy that is over had moved all that it could. -/
  exhausts : ∀ e, (p.lane e).copy.isAlive = false → Exhausts (p₀.lane e) (p.lane e)
  /-- When a copy is over, the other has moved all that it could too. -/
  still : ∀ e, (p.lane e).copy.isAlive = false → ∀ x, (p.lane x).Still
  /-- When a copy is over, one of them has met its end. -/
  met : ∀ e, (p.lane e).copy.isAlive = false →
    ∃ x m fault, ReflTransGen Moves (p₀.lane x) m ∧ Meets m fault
  stats : p.stats = none ∨ p.stats = some (.ofCopies p.toLocal p.toRemote)

namespace Yields

theorem refl (h : p₀.Calm) : Yields p₀ p₀ where
  alive e _ := .refl
  exhausts e ho := by simp [h.alive e] at ho
  still e ho := by simp [h.alive e] at ho
  met e ho := by simp [h.alive e] at ho
  stats := .inl h.running

theorem move {e : End} {l : Lane} (h : Yields p₀ p) (hs : p.stats = none)
    (hm : Moves (p.lane e) l) : Yields p₀ (p.setLane e l) := by
  -- something moves, so no copy is over
  have halive : ∀ x, (p.lane x).copy.isAlive = true := by
    intro x
    rw [← Bool.not_eq_false]
    intro ho
    exact h.still x ho e l hm
  have hl : ReflTransGen Moves (p₀.lane e) l := (h.alive e (halive e)).tail hm
  have halive' : ∀ x, ((p.setLane e l).lane x).copy.isAlive = true := by
    intro x
    refine forall_setLane (P := fun _ l => l.copy.isAlive = true) ?_ ?_ x
    · exact hm.alive.2
    · exact halive e.other
  refine ⟨?_, ?_, ?_, ?_, .inl (by rwa [stats_setLane])⟩
  · intro x _
    exact forall_setLane (P := fun x l => ReflTransGen Moves (p₀.lane x) l) hl
      (h.alive e.other (halive e.other)) x
  all_goals
    intro x ho
    rw [halive' x] at ho
    cases ho

/-- A copy comes to its end where it had moved all that it could, and the other has too. -/
theorem ended {e : End} {fault : Option Fault} (h : Yields p₀ p) (hs : p.stats = none)
    (ha : (p.lane e).copy.isAlive = true) (hl : (p.lane e).Still) (ho : (p.lane e.other).Still)
    (hmet : ∃ x m fault, ReflTransGen Moves (p₀.lane x) m ∧ Meets m fault) :
    Yields p₀ (p.setLane e ((p.lane e).ended fault)) where
  alive := by
    refine forall_setLane
      (P := fun x l => l.copy.isAlive = true → ReflTransGen Moves (p₀.lane x) l) ?_ ?_
    · intro ha'
      cases ha'
    · exact h.alive e.other
  exhausts := by
    refine forall_setLane (P := fun x l => l.copy.isAlive = false → Exhausts (p₀.lane x) l) ?_ ?_
    · intro _
      exact ⟨p.lane e, h.alive e ha, hl, .ended _ _⟩
    · exact h.exhausts e.other
  still _ _ := by
    refine forall_setLane (P := fun _ l => l.Still) ?_ ho
    exact still_of_not_alive rfl
  met _ _ := hmet
  stats := .inl (by rwa [stats_setLane])

/-- When a copy meets its end, the other one has nothing to move. -/
theorem still_other {e : End} {fault : Option Fault} (hc : p₀.Calm) (h : Yields p₀ p)
    (hm : Meets (p.lane e) fault) : (p.lane e.other).Still := by
  cases hx : (p.lane e.other).copy.isAlive with
  | false => exact still_of_not_alive hx
  | true =>
    have hother : ReflTransGen Moves (p₀.lane e.other) (p.lane e.other) := h.alive _ hx
    have hown : ReflTransGen Moves (p₀.lane e) (p.lane e) := h.alive e hm.alive
    -- one of the two had nothing to move from the beginning
    obtain ⟨y, hy, hcase⟩ := hc.still
    obtain rfl | rfl := e.eq_or_eq_other y
    · have he : p.lane y = p₀.lane y := hy.eq hown
      rw [he] at hm
      obtain hstuck | hstill := hcase
      · exact absurd hm (hstuck.2 fault)
      · rw [hstill.eq hother]
        exact hstill
    · rw [hy.eq hother]
      exact hy

theorem shut {e : End} (h : Yields p₀ p) (hs : p.stats = none)
    (ho : (p.lane e).copy.isAlive = false) : Yields p₀ (p.setLane e (p.lane e).shut) where
  alive := by
    refine forall_setLane
      (P := fun x l => l.copy.isAlive = true → ReflTransGen Moves (p₀.lane x) l) ?_ ?_
    · intro ha
      change (p.lane e).copy.isAlive = true at ha
      rw [ho] at ha
      cases ha
    · exact h.alive e.other
  exhausts := by
    refine forall_setLane (P := fun x l => l.copy.isAlive = false → Exhausts (p₀.lane x) l) ?_ ?_
    · intro _
      obtain ⟨m, hm, hstill, hh⟩ := h.exhausts e ho
      exact ⟨m, hm, hstill, hh.shut⟩
    · exact h.exhausts e.other
  still _ _ := by
    refine forall_setLane (P := fun _ l => l.Still) ?_ (h.still e ho e.other)
    exact still_of_not_alive ho
  met _ _ := h.met e ho
  stats := .inl (by rwa [stats_setLane])

theorem release (h : Yields p₀ p) (hall : ∀ e, (p.lane e).copy.isAlive = false) :
    Yields p₀ p.release where
  alive e ha := by
    rw [Ordered.lane_release] at ha
    change (p.lane e).copy.isAlive = true at ha
    rw [hall e] at ha
    cases ha
  exhausts e _ := by
    obtain ⟨m, hm, hstill, hh⟩ := h.exhausts e (hall e)
    rw [Ordered.lane_release]
    exact ⟨m, hm, hstill, hh.counted, hh.source, hh.sink⟩
  still _ _ x := by
    rw [Ordered.lane_release]
    exact still_of_not_alive (hall x)
  met e _ := h.met e (hall e)
  stats := .inr rfl

/-- Whatever a calm pipe does, no byte that could be moved is left behind an end. -/
theorem does (hc : p₀.Calm) (ho : Ordered done p) (h : Yields p₀ p) (hd : Does done p d p') :
    Yields p₀ p' := by
  cases hd with
  | move hs hm => exact h.move hs hm
  | @meet e fault hs hm =>
    exact h.ended hs hm.alive hm.still (h.still_other hc hm)
      ⟨e, p.lane e, fault, h.alive e hm.alive, hm⟩
  | @cancel e hs ha hover =>
    exact h.ended hs ha (h.still e.other hover e) (h.still e.other hover e.other)
      (h.met e.other hover)
  | shut hs hover _ => exact h.shut hs hover
  | release _ hall => exact h.release fun e => (ho.shut e (hall e)).1

/-- Behind any row of deeds. -/
theorem row (hc : p₀.Calm) (ho : Ordered done p₀) (h : Row done p₀ done' p) :
    Ordered done' p ∧ Yields p₀ p := by
  induction h with
  | refl => exact ⟨ho, .refl hc⟩
  | tail _ hd ih => exact ⟨ih.1.does hd, ih.2.does hc ih.1 hd⟩

/-! ## All orders come to the same -/

/-- Both copies of a settled pipe that has not returned have moved all that they could. -/
theorem stuck (h : Yields p₀ p) (hset : Settled done p) (hs : p.stats = none) (e : End) :
    ReflTransGen Moves (p₀.lane e) (p.lane e) ∧ (p.lane e).Stuck := by
  have ha := hset.alive hs e
  refine ⟨h.alive e ha, ?_, ?_⟩
  · intro l hm
    exact hset _ _ (.move hs hm)
  · intro fault hm
    exact hset _ _ (.meet hs hm)

/-- Whether a pipe returns does not depend on the order. -/
theorem running (h : Yields p₀ p) (hset : Settled done p) (hs : p.stats = none)
    (h' : Yields p₀ p') (ho' : Ordered done' p') : p'.stats = none := by
  refine Decidable.byContradiction fun hs' => ?_
  obtain ⟨e, m, fault, hm, hmeets⟩ := h'.met .client (ho'.ended_of_returned hs' .client)
  -- the copy that met its end in the one order is stuck at the same place in the other
  obtain ⟨hl, hstuck⟩ := h.stuck hset hs e
  have he : m = p.lane e := Still.unique hm hmeets.still hl hstuck.1
  rw [he] at hmeets
  exact hstuck.2 fault hmeets

end Yields

/-- Two pipes cannot be told apart from outside: their streams hold the same bytes and are closed
alike, and both run, or both have returned with the same counts. -/
structure Alike (p p' : Pipe) : Prop where
  inbound : p.inbound = p'.inbound
  outbound : p.outbound = p'.outbound
  stats : p.stats = p'.stats

/-- Pipes are alike when their channels and their stats are the same. -/
theorem Alike.of_lanes (hs : p.stats = p'.stats)
    (hl : ∀ e, (p.lane e).source = (p'.lane e).source ∧ (p.lane e).sink = (p'.lane e).sink) :
    Alike p p' := by
  obtain ⟨⟨_, _⟩, ⟨_, _⟩, _, _, _⟩ := p
  obtain ⟨⟨_, _⟩, ⟨_, _⟩, _, _, _⟩ := p'
  obtain ⟨h₁, h₂⟩ := hl .client
  obtain ⟨h₃, h₄⟩ := hl .service
  simp only [lane] at h₁ h₂ h₃ h₄
  subst h₁ h₂ h₃ h₄
  exact ⟨rfl, rfl, hs⟩

theorem close_of_closed {c : Channel} (h : c.closed = true) : c.close = c := by
  obtain ⟨capacity, buffer, closed⟩ := c
  cases h
  rfl

/-- Two settled ends of one calm pipe that have returned are alike. -/
theorem Yields.alike_of_returned (h : Yields p₀ p) (ho : Ordered done p) (hs : p.stats ≠ none)
    (h' : Yields p₀ p') (ho' : Ordered done' p') (hs' : p'.stats ≠ none) : Alike p p' := by
  -- each direction was left where its copy had moved all that it could
  have hcommon : ∀ e, ∃ m, (p.lane e).Holds m ∧ (p'.lane e).Holds m := by
    intro e
    obtain ⟨m, hm, hstill, hh⟩ := h.exhausts e (ho.ended_of_returned hs e)
    obtain ⟨m', hm', hstill', hh'⟩ := h'.exhausts e (ho'.ended_of_returned hs' e)
    have he : m = m' := Still.unique hm hstill hm' hstill'
    rw [← he] at hh'
    exact ⟨m, hh, hh'⟩
  have hcount : ∀ e, (p.lane e).copy.counted = (p'.lane e).copy.counted := by
    intro e
    obtain ⟨m, hh, hh'⟩ := hcommon e
    exact hh.counted.trans hh'.counted.symm
  refine Alike.of_lanes ?_ ?_
  · have h₁ : p.toLocal.counted = p'.toLocal.counted := hcount .client
    have h₂ : p.toRemote.counted = p'.toRemote.counted := hcount .service
    rw [h.stats.resolve_left hs, h'.stats.resolve_left hs']
    unfold Stats.ofCopies
    rw [h₁, h₂]
  · intro e
    obtain ⟨m, hh, hh'⟩ := hcommon e
    obtain ⟨hshut, hsource⟩ := ho.returned hs e
    obtain ⟨hshut', hsource'⟩ := ho'.returned hs' e
    have hclosed := (ho.shut e hshut).2
    have hclosed' := (ho'.shut e hshut').2
    refine ⟨?_, ?_⟩
    · rw [← close_of_closed hsource, ← close_of_closed hsource']
      exact hh.source.trans hh'.source.symm
    · rw [← close_of_closed hclosed, ← close_of_closed hclosed']
      exact hh.sink.trans hh'.sink.symm

/-- Two rows of deeds from one calm pipe that both come to rest come to the same. -/
theorem Calm.confluent (hc : p₀.Calm) (ho : Ordered done p₀) (hr : Row done p₀ done' p)
    (hset : Settled done' p) (hr' : Row done p₀ done'' p') (hset' : Settled done'' p') :
    Alike p p' := by
  obtain ⟨ho₁, h⟩ := Yields.row hc ho hr
  obtain ⟨ho₂, h'⟩ := Yields.row hc ho hr'
  by_cases hs : p.stats = none
  · have hs' : p'.stats = none := h.running hset hs h' ho₂
    refine Alike.of_lanes (hs.trans hs'.symm) ?_
    intro e
    obtain ⟨hl, hstuck⟩ := h.stuck hset hs e
    obtain ⟨hl', hstuck'⟩ := h'.stuck hset' hs' e
    have he : p.lane e = p'.lane e := Still.unique hl hstuck.1 hl' hstuck'.1
    rw [he]
    exact ⟨rfl, rfl⟩
  · have hs' : p'.stats ≠ none := by
      intro hs'
      exact hs (h'.running hset' hs' h ho₁)
    exact h.alike_of_returned ho₁ hs h' ho₂ hs'

end Pipe

namespace Traffic

open Pipe Function

variable {inbound outbound : Nat} {done done' done'' : List Deed} {t : Traffic} {p p' : Pipe}

/-- A step of an end leaves a settled pipe calm: it gives work to the copy of one direction at most,
and none to a direction whose channel it closes. -/
theorem calm_act (hset : Settled done t.pipe) (hs : t.pipe.stats = none) (e : End) (x : Act) :
    (t.act e x).pipe.Calm := by
  have hstuck : ∀ y, (t.pipe.lane y).Stuck := by
    intro y
    refine ⟨?_, ?_⟩
    · intro l hm
      exact hset _ _ (.move hs hm)
    · intro fault hm
      exact hset _ _ (.meet hs hm)
  have hstill : ∀ y, (t.pipe.lane y).Still := fun y => (hstuck y).1
  refine ⟨?_, ?_, ?_⟩
  · rw [stats_act]
    exact hs
  · intro y
    rw [(lane_act t e x y).1]
    exact hset.alive hs y
  · unfold act
    split
    · exact ⟨e, hstill e, .inl (hstuck e)⟩
    · cases x with
      | write bytes =>
        refine ⟨e.other, ?_⟩
        rw [lane_setLane_other]
        exact ⟨hstill e.other, .inl (hstuck e.other)⟩
      | read limit =>
        refine ⟨e, ?_⟩
        rw [lane_other_setLane]
        exact ⟨hstill e, .inl (hstuck e)⟩
      | shutdown =>
        refine ⟨e.other, ?_⟩
        rw [lane_setLane_other]
        exact ⟨hstill e.other, .inl (hstuck e.other)⟩
      | drop =>
        -- both directions are closed at one side, and neither has anything to move
        refine ⟨e, ?_, .inr ?_⟩
        · rw [lane_other_setLane, lane_setLane]
          exact (hstill e).close_source
        · rw [lane_setLane, lane_setLane_other]
          exact (hstill e.other).close_sink

/-- What the pipe does by itself behind a step is a row of deeds that comes to rest. -/
theorem Reaches.own_row (h : Reaches inbound outbound done t) (hset : Settled done t.pipe) (e : End)
    (x : Act) : ∃ done', Row done (t.act e x).pipe done' (t.perform e x).pipe ∧
      Settled done' (t.perform e x).pipe := by
  rw [perform_eq]
  by_cases hg : t.gone e = true
  · have ha : t.act e x = t := by
      unfold Traffic.act
      rw [if_pos hg]
    rw [if_pos hg, ha]
    exact ⟨done, .refl, hset⟩
  · rw [if_neg hg]
    by_cases hs : (t.act e x).pipe.stats = none
    · have hs' : t.pipe.stats = none := by rwa [stats_act] at hs
      have hn : ∀ y, .shut y ∉ done := fun y => h.ordered.not_shut (hset.alive hs' y)
      exact settle_row hs hn
    · have he : (t.act e x).pipe.settle = (t.act e x).pipe := settle_of_returned hs
      refine ⟨done, ?_, settled_of_returned ?_⟩
      · show Row done (t.act e x).pipe done (t.act e x).pipe.settle
        rw [he]
        exact .refl
      · show (t.act e x).pipe.settle.stats ≠ none
        rwa [he]

/-- Behind a step, all rows of deeds that come to rest come to the same. -/
theorem Reaches.confluent (h : Reaches inbound outbound done t) (hset : Settled done t.pipe)
    (e : End) (x : Act) (hr : Row done (t.act e x).pipe done' p) (hp : Settled done' p)
    (hr' : Row done (t.act e x).pipe done'' p') (hp' : Settled done'' p') : Alike p p' := by
  by_cases hs : t.pipe.stats = none
  · exact (calm_act hset hs e x).confluent (h.act e x).ordered hr hp hr' hp'
  · -- the pipe has returned, and there is nothing that it could do
    have hret : Settled done (t.act e x).pipe := by
      refine settled_of_returned ?_
      rwa [stats_act]
    rw [hr.eq_of_settled hret, hr'.eq_of_settled hret]
    exact ⟨rfl, rfl, rfl⟩

/-- From every settled point of a pipe in use and for every step of an end, the order in which the
copies act and hear of each other does not matter: what the pipe does by itself is one of the
orders, none goes on for ever, each can be brought to rest, and wherever one comes to rest, the four
channels hold the same bytes and are closed alike, and the pipe runs, or has returned with the same
counts. -/
theorem outcome_unique (inbound outbound : Nat) (done : List Deed) (t : Traffic)
    (h : Reaches inbound outbound done t) (hset : Settled done t.pipe) (e : End) (x : Act) :
    (∃ done', Row done (t.act e x).pipe done' (t.perform e x).pipe ∧
      Settled done' (t.perform e x).pipe) ∧
    ∀ done' p, Row done (t.act e x).pipe done' p →
      done'.length ≤ done.length + effort done (t.act e x).pipe ∧
      (∃ done'' p', Row done' p done'' p' ∧ Settled done'' p') ∧
      (Settled done' p → Alike p (t.perform e x).pipe) := by
  obtain ⟨own, hown, hrest⟩ := h.own_row hset e x
  refine ⟨⟨own, hown, hrest⟩, ?_⟩
  intro done' p hr
  have hlength := hr.length_le
  refine ⟨by omega, exists_settled done' p, ?_⟩
  intro hp
  exact h.confluent hset e x hr hp hown hrest

/-- The service has sent three bytes more than the streams hold, and the client reads none. -/
def backlog : Traffic :=
  run 1 1 [(.service, .write [1]), (.service, .write [2]), (.service, .write [3])]

/-- When the client goes away, the copy of the service may break at its sink, or be cancelled
behind the end of the other; the pipe returns with the same counts. -/
theorem outcome_unique_backlog :
    let p := (backlog.act .client .drop).pipe
    let cancelled := (p.setLane .client ((p.lane .client).ended none)).finish
    Alike cancelled (backlog.perform .client .drop).pipe ∧
      cancelled.toRemote.stage = .ended none ∧
      (backlog.perform .client .drop).pipe.toRemote.stage = .ended (some .brokenPipe) := by
  intro p cancelled
  obtain ⟨done, hr, hset⟩ := reaches_run 1 1
    [(.service, .write [1]), (.service, .write [2]), (.service, .write [3])]
  have hs : backlog.pipe.stats = none := by decide +kernel
  have hs' : p.stats = none := by rwa [stats_act]
  have hn : ∀ y, .shut y ∉ done := fun y => hr.ordered.not_shut (hset.alive hs y)
  have hlane : p.lane .client = ⟨⟨.reading, 0⟩, ⟨1, [], true⟩, ⟨1, [], false⟩⟩ := by
    decide +kernel
  have hend : Lane.Meets (p.lane .client) none := by
    rw [hlane]
    exact .finished rfl rfl
  have hmeet : Does done p (.meet .client none) (p.setLane .client ((p.lane .client).ended none)) :=
    .meet hs' hend
  have hshut : ∀ y, .shut y ∉ done ++ [.meet .client none] := by simp [hn]
  obtain ⟨more, hrow⟩ := row_finish
    (p := p.setLane .client ((p.lane .client).ended none)) (e := .client) hs' rfl hshut
  have hfinish : Row done p (done ++ [.meet .client none] ++ more) cancelled :=
    (Row.refl.tail hmeet).trans hrow
  have hunique := outcome_unique 1 1 done backlog hr hset .client .drop
  have hreturned : cancelled.stats ≠ none := by simp [cancelled, finish]
  have halike := (hunique.2 _ cancelled hfinish).2.2 (settled_of_returned hreturned)
  exact ⟨halike, by decide +kernel, by decide +kernel⟩

end Traffic

end Tether.Relay
