import Tether.Proofs.Supervisor.Settled

/-!
When a supervisor checks. By the record alone a check is due one interval behind the latest of
these: the end of the start, the end of a replacement, whatever it came to and however long it took,
and the time at which the check was due that has passed since (`nextCheck`). No check is made at any
other time: the table `Supervisor.Expects` says for each point of the work what the supervisor waits
for by that record, every atomic action keeps to it, and so every check on record is punctual
(`Moment.Reaches.onTime`). None is left out either: a check that is due is made as soon as the clock
gets there. `check_timing` puts this together, with what follows from it: a session is never checked
earlier than one interval behind its installation, and checks never come in a burst.
-/

namespace Tether.Agent

open Tether.Control Tether.Overlay Tether.Sim

/-! ## The schedule on record -/

/-- When the next check is due behind an event, by when it was due before. The end of a build begins
a period, and a check that passes another one behind it; while a session is being replaced no check
is due. -/
def Event.reschedule (period : Time.Span) (time : Nat) (due : Option Time.Span) :
    Event → Option Time.Span
  | .slot (some _) | .failed => some (.ofMillis time + period)
  | .checked true => due.map (· + period)
  | .checked false | .requested | .begun => none
  | .state _ | .slot none | .started _ | .closed _ | .closedOutside _ => due

/-- When the next check is due behind a record, which has the newest event first. -/
def nextCheck (period : Time.Span) : List (Nat × Event) → Option Time.Span
  | [] => none
  | (time, e) :: earlier => e.reschedule period time (nextCheck period earlier)

theorem reschedule_cases {period due : Time.Span} {time : Nat} {before : Option Time.Span}
    {e : Event} (h : e.reschedule period time before = some due) :
    due = .ofMillis time + period ∨ ∃ d, before = some d ∧ (due = d + period ∨ due = d) := by
  unfold Event.reschedule at h
  split at h
  · exact .inl (Option.some.inj h).symm
  · exact .inl (Option.some.inj h).symm
  · obtain ⟨d, hd, he⟩ := Option.map_eq_some_iff.1 h
    exact .inr ⟨d, hd, .inl he.symm⟩
  all_goals
    cases h <;> exact .inr ⟨due, rfl, .inr rfl⟩

/-- Behind events from some time on, the next check is due no earlier than a period later, unless it
was due earlier already. -/
theorem period_le_nextCheck {period due : Time.Span} {bound : Nat}
    {between before : List (Nat × Event)} (hb : ∀ x ∈ between, bound ≤ x.1 * 1000000)
    (h₀ : ∀ d, nextCheck period before = some d → bound + period.nanos ≤ d.nanos)
    (h : nextCheck period (between ++ before) = some due) : bound + period.nanos ≤ due.nanos := by
  -- on the events between: each begins a period at its own time, puts off the check or leaves it
  induction between generalizing due with
  | nil => exact h₀ due h
  | cons x between ih =>
    obtain ⟨time, e⟩ := x
    obtain rfl | ⟨d, hd, hdue⟩ := reschedule_cases h
    · rw [Time.Span.nanos_add, Time.Span.nanos_ofMillis]
      exact Nat.add_le_add_right (hb _ List.mem_cons_self) _
    · have hle := ih (fun x hx => hb x (List.mem_cons_of_mem _ hx)) hd
      obtain rfl | rfl := hdue
      · rw [Time.Span.nanos_add]
        omega
      · exact hle

/-- With a period of whole milliseconds every check is due at a whole millisecond. -/
theorem nextCheck_ofMillis {k : Nat} {history : List (Nat × Event)} {due : Time.Span}
    (h : nextCheck (.ofMillis k) history = some due) : ∃ n, due = .ofMillis n := by
  have hadd (n : Nat) : Time.Span.ofMillis n + .ofMillis k = .ofMillis (n + k) := by
    simp only [Time.Span.ofMillis, Nat.add_mul]
    rfl
  induction history generalizing due with
  | nil => cases h
  | cons x history ih =>
    obtain rfl | ⟨d, hd, hdue⟩ := reschedule_cases h
    · exact ⟨_, hadd _⟩
    · obtain ⟨n, rfl⟩ := ih hd
      obtain rfl | rfl := hdue
      · exact ⟨_, hadd n⟩
      · exact ⟨n, rfl⟩

/-- Each check on record was made when it was due by the record before it, which is in the order of
time. -/
def Punctual (period : Time.Span) : List (Nat × Event) → Prop
  | [] => True
  | (time, e) :: earlier =>
    (∀ passed, e = .checked passed → ∃ due, nextCheck period earlier = some due ∧
      time = due.ticks ∧ (time :: earlier.map Prod.fst).Pairwise (· ≥ ·)) ∧
    Punctual period earlier

theorem Punctual.of_append {period : Time.Span} {after before : List (Nat × Event)}
    (h : Punctual period (after ++ before)) : Punctual period before := by
  induction after with
  | nil => exact h
  | cons x after ih => exact ih h.2

namespace Supervisor

variable {s : Supervisor}

/-- What is on record came in the order of time, and none of it later than now. -/
def Dated (s : Supervisor) : Prop := (s.now :: s.history.map Prod.fst).Pairwise (· ≥ ·)

/-- Events that go on record now keep it in order. -/
theorem Dated.records {s' : Supervisor} {events : List Event} (h : s.Dated)
    (hr : Moment.Records s events s') : s'.Dated := by
  unfold Dated at *
  rw [hr.now, hr.history]
  clear hr
  induction events with
  | nil => exact h
  | cons e events ih =>
    rw [List.map_cons, List.cons_append, List.map_cons, List.pairwise_cons]
    refine ⟨?_, ih⟩
    intro t ht
    obtain rfl | ht := List.mem_cons.1 ht
    · exact Nat.le_refl _
    · exact (List.pairwise_cons.1 ih).1 t ht

/-- Time that passes keeps the record in order. -/
theorem Dated.later {time : Nat} (h : s.Dated) (ht : s.now ≤ time) :
    Dated { s with now := time } := by
  unfold Dated at *
  rw [List.pairwise_cons] at h ⊢
  exact ⟨fun t hm => Nat.le_trans (h.1 t hm) ht, h.2⟩

/-- Events that are no checks keep the checks on record punctual. -/
theorem punctual_records {s' : Supervisor} {events : List Event}
    (h : Punctual s.setup.period s.history) (hr : Moment.Records s events s')
    (he : ∀ passed, .checked passed ∉ events) : Punctual s'.setup.period s'.history := by
  rw [hr.setup, hr.history]
  clear hr
  induction events with
  | nil => exact h
  | cons e events ih =>
    simp only [List.mem_cons, not_or] at he
    exact ⟨fun passed hp => absurd hp.symm (he passed).1, ih fun passed => (he passed).2⟩

/-- The time of the next check by the record of a supervisor. -/
def next (s : Supervisor) : Option Time.Span := nextCheck s.setup.period s.history

/-- What a supervisor waits for at each point of its work, by its record. -/
def Expects (s : Supervisor) : Duty → Prop
  | .wait | .rest =>
    match s.phase with
    | .watching due => s.next = some due ∧ s.now ≤ due.ticks
    | .building p => s.next = none ∧ s.now ≤ p.due
    | .crashed => s.setup.interval.isZero = false →
      ∃ due, s.next = some due ∧ clockSeconds * 1000 ≤ due.ticks
    | .stopped => True
  | .check due => s.next = some due ∧ s.now = due.ticks
  | .pass due => s.next = some (due + s.setup.period) ∧ s.now = due.ticks
  | .confirm | .conclude none | .rearm => s.next = some (.ofMillis s.now + s.setup.period)
  | _ => True

end Supervisor

namespace Moment

/-- At a moment of its work a supervisor waits for what its record says, and all that it checked was
checked in time. Behind its end the clock says nothing any more. -/
structure OnTime (m : Moment) : Prop where
  expects : m.supervisor.Expects m.duty
  dated : m.duty ≠ .wait ∨ m.supervisor.isStopped = false → m.supervisor.Dated
  punctual : Punctual m.supervisor.setup.period m.supervisor.history

/-! ## Atomic actions keep to the schedule -/

/-- A timer that is set is set to what the record says. -/
theorem expects_set {s : Supervisor} {due : Time.Span}
    (h : s.next = some (.ofMillis s.now + s.setup.period))
    (hf : s.setup.firstCheck? s.now = some due) :
    Supervisor.Expects { s with phase := .watching due } .wait := by
  cases Supervisor.firstCheck_eq hf
  exact ⟨h, Nat.le_of_lt (Supervisor.lt_ticks_period _ _)⟩

/-- Where no timer is set, the clock does not reach what the record says. -/
theorem expects_crash {s : Supervisor} (h : s.next = some (.ofMillis s.now + s.setup.period))
    (hf : s.setup.firstCheck? s.now = none) :
    Supervisor.Expects { s with phase := .crashed } .wait := by
  intro hi
  -- the interval has some length, so it is the clock that does not reach that far
  have hc : clockSeconds ≤ (s.now * 1000000 + s.setup.interval.nanos) / 1000000000 := by
    refine Decidable.byContradiction fun hc => ?_
    have hi' : s.setup.interval.isZero = false := hi
    simp [Setup.firstCheck?, hi', hc] at hf
  refine ⟨_, h, Nat.le_of_mul_le_mul_right ?_ (by decide : 0 < 1000000)⟩
  calc clockSeconds * 1000 * 1000000
    _ = clockSeconds * 1000000000 := Nat.mul_assoc _ _ _
    _ ≤ s.now * 1000000 + s.setup.interval.nanos := (Nat.le_div_iff_mul_le (by decide)).1 hc
    _ ≤ s.now * 1000000 + s.setup.period.nanos := Nat.add_le_add_left (Nat.le_max_right _ _) _
    _ ≤ (Time.Span.ofMillis s.now + s.setup.period).ticks * 1000000 :=
      Time.Span.nanos_le_ticks _

theorem expects_enter {s : Supervisor} (h : s.next = some (.ofMillis s.now + s.setup.period)) :
    s.enter.Expects .wait := by
  unfold Supervisor.enter
  dsimp only
  split
  · rename_i due hf
    exact expects_set (s := s.tell _) h hf
  · rename_i hf
    exact expects_crash (s := s.tell _) h hf

theorem expects_conclude {first : Bool} {e : Option Error} {s : Supervisor}
    (h : s.Expects (.conclude e)) :
    (work ⟨first, .conclude e, s⟩).supervisor.Expects (work ⟨first, .conclude e, s⟩).duty := by
  cases e with
  | some e =>
    cases first with
    | false => exact rfl
    | true => trivial
  | none =>
    cases first with
    | false => exact h
    | true => exact expects_enter h

theorem expects_rearm {first : Bool} {s : Supervisor} (h : s.Expects .rearm) :
    (work ⟨first, .rearm, s⟩).supervisor.Expects (work ⟨first, .rearm, s⟩).duty := by
  simp only [work]
  split
  · rename_i due hf
    exact expects_set h hf
  · rename_i hf
    exact expects_crash h hf

theorem expects_check {first : Bool} {due : Time.Span} {s : Supervisor}
    (h : s.Expects (.check due)) :
    (work ⟨first, .check due, s⟩).supervisor.Expects (work ⟨first, .check due, s⟩).duty := by
  obtain ⟨hn, hnow⟩ := h
  simp only [work]
  cases hok : (checkHealth s.net s.current).2.isOk with
  | true =>
    refine ⟨?_, hnow⟩
    show (nextCheck s.setup.period s.history).map (· + s.setup.period) = _
    rw [show nextCheck s.setup.period s.history = some due from hn]
    rfl
  | false => trivial

/-- Every atomic action leads from what is expected at its point to what is expected at the
next. -/
theorem expects_work {m : Moment} (h : m.supervisor.Expects m.duty) :
    m.work.supervisor.Expects m.work.duty := by
  obtain ⟨first, duty, s⟩ := m
  cases duty with
  | wait => exact h
  | check due => exact expects_check h
  | pass due =>
    obtain ⟨hn, hnow⟩ := h
    exact ⟨hn, Nat.le_trans (Nat.le_of_eq hnow) (Time.Span.ticks_mono (Nat.le_add_right _ _))⟩
  | withdraw =>
    simp only [work]
    split <;> trivial
  | ask => exact ⟨rfl, Nat.le_add_right _ _⟩
  | start key =>
    simp only [work]
    split <;> trivial
  | listen id =>
    simp only [work]
    split <;> trivial
  | publish id => exact rfl
  | confirm => exact h
  | conclude e => exact expects_conclude h
  | rearm => exact expects_rearm h
  | rest =>
    simp only [work]
    split
    · trivial
    · exact h
  | fall | close _ | announce | equip _ | discard _ _ | hold _ => trivial

/-- Every atomic action keeps the checks on record punctual. -/
theorem punctual_work {m : Moment} (h : m.OnTime) :
    Punctual m.work.supervisor.setup.period m.work.supervisor.history := by
  obtain ⟨events, hr, hc⟩ := records_work m
  by_cases he : ∃ passed, .checked passed ∈ events
  · obtain ⟨passed, hm⟩ := he
    obtain ⟨rfl, due, hd⟩ := hc passed hm
    have hx := h.expects
    have hdated := h.dated (.inl (by simp [hd]))
    rw [hd] at hx
    rw [hr.setup, hr.history]
    exact ⟨fun _ _ => ⟨due, hx.1, hx.2, hdated⟩, h.punctual⟩
  · exact Supervisor.punctual_records h.punctual hr fun passed hm => he ⟨passed, hm⟩

theorem OnTime.work {m : Moment} (h : m.OnTime) : m.work.OnTime where
  expects := expects_work h.expects
  dated hw := by
    by_cases hd : m.duty = .wait
    · have he : m.work = m := by
        obtain ⟨first, duty, s⟩ := m
        cases hd
        rfl
      rw [he] at hw ⊢
      exact h.dated hw
    · obtain ⟨events, hr, -⟩ := records_work m
      exact (h.dated (.inl hd)).records hr
  punctual := punctual_work h

/-! ## Waits and events from outside keep to the schedule -/

/-- Time that passes before anything is due changes nothing that is expected. -/
theorem OnTime.pass {s : Supervisor} {time : Nat} (h : OnTime ⟨false, .wait, s⟩)
    (ht : s.now ≤ time) (hd : ∀ due, s.due? = some due → time < due) :
    OnTime ⟨false, .wait, { s with now := time }⟩ where
  expects := by
    have he := h.expects
    unfold Supervisor.due? at hd
    simp only [Supervisor.Expects] at he ⊢
    split at he
    · rename_i due hp
      simp only [hp, Option.some.injEq, forall_eq'] at hd
      exact ⟨he.1, Nat.le_of_lt hd⟩
    · rename_i p hp
      simp only [hp, Option.some.injEq, forall_eq'] at hd
      exact ⟨he.1, Nat.le_of_lt hd⟩
    · exact he
    · exact he
  dated hs := (h.dated hs).later ht
  punctual := h.punctual

theorem records_close (s : Supervisor) (session : Nat) :
    Records s [.closedOutside session] (s.closeOutside session).1 := ⟨rfl, rfl, rfl⟩

theorem OnTime.close {s : Supervisor} (session : Nat) (h : OnTime ⟨false, .wait, s⟩) :
    OnTime ⟨false, .wait, (s.closeOutside session).1⟩ where
  expects := h.expects
  dated hs := (h.dated hs).records (records_close s session)
  punctual := Supervisor.punctual_records h.punctual (records_close s session) (by simp)

theorem OnTime.shutdown {s : Supervisor} (h : OnTime ⟨false, .wait, s⟩) :
    OnTime ⟨false, .wait, s.stop⟩ := by
  unfold Supervisor.stop
  dsimp only
  split
  · exact ⟨trivial, fun hs => by simp [Supervisor.isStopped] at hs, h.punctual⟩
  · rename_i slot _
    have hr : Records s [.closed slot.session]
        (({ s with phase := .stopped } : Supervisor).closeSession slot.session
          (.closed slot.session) Supervisor.lastCloseFailedEntry) := ⟨rfl, rfl, rfl⟩
    refine ⟨trivial, fun hs => ?_, Supervisor.punctual_records h.punctual hr (by simp)⟩
    simp [Supervisor.isStopped, Supervisor.closeSession, Supervisor.note] at hs

theorem Next.onTime {m m' : Moment} (hn : Next m m') (h : m.OnTime) : m'.OnTime := by
  cases hn with
  | work => exact h.work
  | @check first s due hp =>
    obtain ⟨he, hd, hpunctual⟩ := h
    simp only [Supervisor.Expects, hp] at he
    simp only [Supervisor.isStopped, hp] at hd
    exact ⟨⟨he.1, rfl⟩, fun _ => (hd (.inr trivial)).later he.2, hpunctual⟩
  | @pursue first s p p' source log hp ha =>
    obtain ⟨he, hd, hpunctual⟩ := h
    simp only [Supervisor.Expects, hp] at he
    simp only [Supervisor.isStopped, hp] at hd
    have hdue : p.due ≤ p'.due := Pursuit.due_act (by rw [ha])
    exact ⟨⟨he.1, hdue⟩, fun _ => (hd (.inr trivial)).later he.2, hpunctual⟩
  | @key first s p key source log hp ha =>
    obtain ⟨he, hd, hpunctual⟩ := h
    simp only [Supervisor.Expects, hp] at he
    simp only [Supervisor.isStopped, hp] at hd
    exact ⟨trivial, fun _ => (hd (.inr trivial)).later he.2, hpunctual⟩
  | abandon s time =>
    exact ⟨trivial, fun hs => by simp [Supervisor.isStopped] at hs, h.punctual⟩
  | pass ht hd => exact h.pass ht hd
  | @request s times hs =>
    obtain ⟨pending, log, ha⟩ := s.ask_eq times
    rw [ha]
    exact ⟨h.expects, fun _ => h.dated (.inr hs), h.punctual⟩
  | refault => exact ⟨h.expects, h.dated, h.punctual⟩
  | close s session => exact h.close session
  | shutdown hs => exact h.shutdown

/-- At every moment within reach the supervisor is on time. -/
theorem Reaches.onTime {m₀ m : Moment} (h₀ : m₀.OnTime) (h : Reaches m₀ m) : m.OnTime :=
  h.keeps (fun _ hn => hn.onTime) h₀

theorem onTime_first (l : Launch) : l.first.OnTime :=
  ⟨trivial, fun _ => List.pairwise_singleton _ _, trivial⟩

/-! ## Nothing is taken off the record -/

theorem suffix_work (m : Moment) : m.supervisor.history <:+ m.work.supervisor.history := by
  obtain ⟨events, hr, -⟩ := records_work m
  rw [hr.history]
  exact List.suffix_append _ _

theorem Leads.suffix {m m' : Moment} (h : Leads m m') :
    m.supervisor.history <:+ m'.supervisor.history := by
  induction h with
  | refl => exact List.suffix_refl _
  | tail _ hw ih =>
    subst hw
    exact ih.trans (suffix_work _)

end Moment

namespace Supervisor

theorem suffix_act (s : Supervisor) : s.history <:+ s.act.history := by
  unfold act
  split
  · rename_i due hp
    exact (Moment.check_leads false { s with now := due.ticks } due).suffix
  · rename_i p hp
    dsimp only
    split
    · exact List.suffix_refl _
    · exact (Moment.rebuild_leads { s with
        source := (p.act s.source s.setup.retry).1, now := p.due
        log := (p.act s.source s.setup.retry).2.2.reverse ++ s.log } _).suffix
  · exact List.suffix_refl _
  · exact List.suffix_refl _

theorem suffix_runTo (s : Supervisor) (limit : Nat) : s.history <:+ (s.runTo limit).history := by
  fun_induction runTo s limit with
  | case1 s hd => exact List.suffix_refl _
  | case2 s due hd hle ih => exact (suffix_act s).trans ih
  | case3 s due hd hle => exact List.suffix_refl _

theorem suffix_reconnect (s : Supervisor) : s.history <:+ s.reconnect.history :=
  (Moment.fall_leads false s).suffix

/-- A check is put on record at its time. -/
theorem suffix_check (s : Supervisor) (due : Time.Span) :
    ∃ passed, (s.now, .checked passed) :: s.history <:+ (s.check due).history := by
  unfold check
  generalize hc : checkHealth s.net s.current = checked
  let t : Supervisor := (({ s with net := checked.1 } : Supervisor).tell
    (s.checkedEntry checked.2)).note (.checked checked.2.isOk)
  refine ⟨checked.2.isOk, ?_⟩
  show t.history <:+ _
  dsimp only
  split
  · exact List.suffix_cons _ _
  · exact suffix_reconnect t

/-- When the clock gets to a check that is watched for, it is made. -/
theorem suffix_advance {s : Supervisor} {due : Time.Span} {time : Nat}
    (hp : s.phase = .watching due) (ht : due.ticks ≤ s.now + time) :
    ∃ passed, (due.ticks, .checked passed) :: s.history <:+ (s.advance time).history := by
  obtain ⟨passed, hc⟩ := suffix_check { s with now := due.ticks } due
  have hd : s.due? = some due.ticks := by
    unfold due?
    rw [hp]
  refine ⟨passed, ?_⟩
  show _ <:+ (s.runTo (s.now + time)).history
  rw [runTo_due hd ht, act_watching hp]
  exact hc.trans (suffix_runTo _ _)

/-- Nothing that the supervisor waits for is overdue. -/
theorem lt_due_perform {s : Supervisor} (x : Step) (h : ∀ due, s.due? = some due → s.now < due) :
    ∀ due, (s.perform x).due? = some due → (s.perform x).now < due := by
  cases x with
  | advance time => exact lt_due_runTo s (s.now + time)
  | reconnect times =>
    unfold perform
    dsimp only
    split
    · exact h
    · obtain ⟨pending, log, ha⟩ := s.ask_eq times
      show ∀ due, (s.ask times).react.due? = some due → (s.ask times).react.now < due
      rw [ha]
      rw [react_eq]
      split
      · intro due hd
        refine Nat.lt_of_le_of_lt (now_runTo_le ?_) (lt_due_runTo _ _ due hd)
        exact Nat.le_of_eq (now_reconnect _)
      · exact h
  | shutdown =>
    unfold perform stop
    dsimp only
    split
    · exact h
    · split
      · intro due hd
        cases hd
      · intro due hd
        cases hd
  | _ => exact h

end Supervisor

theorem lt_due_run {l : Launch} (hl : l.start.2 = .running) (steps : List Step) :
    ∀ due, (l.run steps).due? = some due → (l.run steps).now < due := by
  induction steps using List.reverseRecOn with
  | nil =>
    obtain ⟨s, -, -, hs⟩ := start_eq_enter hl
    rw [run_nil, hs]
    unfold Supervisor.enter
    dsimp only
    split
    · rename_i deadline hf
      intro due h
      cases h
      rw [Supervisor.firstCheck_eq hf]
      exact Supervisor.lt_ticks_period _ _
    · intro due h
      cases h
  | append_singleton steps x ih =>
    rw [run_concat]
    exact Supervisor.lt_due_perform x ih

/-! ## Every check in time -/

theorem period_eq {s : Setup} (h : s.interval.isZero = false) : s.period = s.interval := by
  have hn : s.interval.nanos ≠ 0 := by simpa [Time.Span.isZero] using h
  unfold Setup.period
  rw [Nat.max_eq_right (Nat.one_le_iff_ne_zero.2 hn)]

/-- The checks on record keep to an interval. -/
structure InTime (interval : Time.Span) (history : List (Nat × Event)) : Prop where
  /-- Each was made when it was due: in the millisecond that reaches its time, which is that time
  itself if the interval has whole milliseconds. -/
  punctual : ∀ after time passed before, history = after ++ (time, .checked passed) :: before →
    ∃ due, nextCheck interval before = some due ∧ time = due.ticks ∧
      ∀ k, interval = .ofMillis k → due = .ofMillis time
  /-- Each was made an interval or more behind every installation before it. -/
  rested : ∀ after time passed between installed slot before,
    history =
      after ++ (time, .checked passed) :: (between ++ (installed, .slot (some slot)) :: before) →
    installed * 1000000 + interval.nanos ≤ time * 1000000
  /-- Any two were due an interval or more apart. -/
  apart : ∀ after time passed between time' passed' before,
    history =
      after ++ (time, .checked passed) :: (between ++ (time', .checked passed') :: before) →
    ∃ due due', nextCheck interval (between ++ (time', .checked passed') :: before) = some due ∧
      nextCheck interval before = some due' ∧ due'.nanos + interval.nanos ≤ due.nanos

theorem Punctual.check {period : Time.Span} {after before : List (Nat × Event)} {time : Nat}
    {passed : Bool} (h : Punctual period (after ++ (time, .checked passed) :: before)) :
    ∃ due, nextCheck period before = some due ∧ time = due.ticks ∧
      (time :: before.map Prod.fst).Pairwise (· ≥ ·) := h.of_append.1 passed rfl

/-- What lies between an event and a later check on record came at the time of the event or
later. -/
theorem le_of_between {time time' : Nat} {e : Event} {between before : List (Nat × Event)}
    (h : (time :: (between ++ (time', e) :: before).map Prod.fst).Pairwise (· ≥ ·)) :
    ∀ x ∈ between, time' ≤ x.1 := by
  rw [List.pairwise_cons, List.map_append, List.pairwise_append] at h
  intro x hx
  exact h.2.2.2 x.1 (List.mem_map_of_mem hx) time' List.mem_cons_self

theorem Punctual.inTime {interval : Time.Span} {history : List (Nat × Event)}
    (h : Punctual interval history) : InTime interval history where
  punctual := by
    rintro after time passed before rfl
    obtain ⟨due, hn, ht, -⟩ := h.check
    refine ⟨due, hn, ht, ?_⟩
    rintro k rfl
    obtain ⟨n, rfl⟩ := nextCheck_ofMillis hn
    rw [ht, Time.Span.ticks_ofMillis]
  rested := by
    rintro after time passed between installed slot before rfl
    obtain ⟨due, hn, ht, ho⟩ := h.check
    have hle : installed * 1000000 + interval.nanos ≤ due.nanos := by
      refine period_le_nextCheck ?_ ?_ hn
      · exact fun x hx => Nat.mul_le_mul_right _ (le_of_between ho x hx)
      · rintro d ⟨⟩
        exact Nat.le_refl _
    rw [ht]
    exact Nat.le_trans hle due.nanos_le_ticks
  apart := by
    rintro after time passed between time' passed' before rfl
    obtain ⟨due, hn, ht, ho⟩ := h.check
    rw [← List.cons_append, ← List.append_assoc] at h
    obtain ⟨due', hn', ht', -⟩ := h.check
    refine ⟨due, due', hn, hn', period_le_nextCheck ?_ ?_ hn⟩
    · intro x hx
      have hx' : due'.ticks ≤ x.1 := ht' ▸ le_of_between ho x hx
      exact Nat.le_trans due'.nanos_le_ticks (Nat.mul_le_mul_right _ hx')
    · -- if the earlier check passed, a period begins when it was due; else no check is due
      intro d hd
      cases passed' with
      | true =>
        simp only [nextCheck, Event.reschedule, hn', Option.map_some, Option.some.injEq] at hd
        subst hd
        exact Nat.le_refl _
      | false => cases hd

/-- Behind a start that succeeds every check is made in time, and none is left out: at a settled
point no check is due but while a session is being built, the clock has not got to the one that is
due, and when it does, and nobody asked for another session before, that check is made. The clock
has to hold the time. -/
theorem check_timing (l : Launch) (steps : List Step) (hl : l.start.2 = .running)
    (hi : l.setup.interval.isZero = false) :
    let s := l.run steps
    InTime l.setup.interval s.history ∧
    (Step.shutdown ∉ steps →
      (nextCheck l.setup.interval s.history = none ↔ ∃ p, s.phase = .building p) ∧
      ∀ due, nextCheck l.setup.interval s.history = some due → s.now < clockSeconds * 1000 →
        s.now < due.ticks ∧
        ∀ time, due.ticks ≤ s.now + time → s.now + time < clockSeconds * 1000 →
          ∃ passed, (due.ticks, .checked passed) :: s.history <:+ (s.advance time).history) := by
  intro s
  have hset : s.setup = l.setup := setup_run hl steps
  have hper : s.setup.period = l.setup.interval := by rw [hset, period_eq hi]
  obtain ⟨he, -, hp⟩ := (Moment.reaches_run l steps).onTime (Moment.onTime_first l)
  change Punctual s.setup.period s.history at hp
  change s.Expects .wait at he
  have hnext : s.next = nextCheck l.setup.interval s.history := by
    unfold Supervisor.next
    rw [hper]
  rw [hper] at hp
  refine ⟨hp.inTime, fun hs => ?_⟩
  have hstop : s.isStopped = false := (atWork_run hl hs).not_stopped
  have hdue := lt_due_run hl steps
  rw [← hnext]
  simp only [Supervisor.Expects] at he
  cases hph : s.phase with
  | watching due =>
    simp only [hph] at he
    refine ⟨by simp [he.1], ?_⟩
    intro d hd hc
    rw [he.1, Option.some.injEq] at hd
    subst hd
    have hlt : s.now < due.ticks := hdue _ (by simp [Supervisor.due?, s, hph])
    exact ⟨hlt, fun time ht _ => Supervisor.suffix_advance hph ht⟩
  | building p =>
    simp only [hph] at he
    refine ⟨by simp [he.1], ?_⟩
    intro d hd
    rw [he.1] at hd
    cases hd
  | crashed =>
    simp only [hph] at he
    obtain ⟨due, hn, hfar⟩ := he (by rw [hset]; exact hi)
    refine ⟨by simp [hn], ?_⟩
    intro d hd hc
    rw [hn, Option.some.injEq] at hd
    subst hd
    -- the clock does not reach that far
    refine ⟨Nat.lt_of_lt_of_le hc hfar, fun time ht ht' => ?_⟩
    exact absurd (Nat.lt_of_lt_of_le ht' hfar) (Nat.not_lt.2 ht)
  | stopped => simp [Supervisor.isStopped, hph] at hstop

/-- A plain launch makes its first check behind five seconds. -/
theorem check_timing_plain :
    ∃ passed, (5000, .checked passed) :: (Launch.plain.run []).history <:+
      ((Launch.plain.run []).advance 7000).history := by
  have h : nextCheck Launch.plain.setup.interval (Launch.plain.run []).history =
      some (.ofMillis 5000) ∧ (Launch.plain.run []).now = 0 := by
    unfold Launch.run Launch.start Supervisor.start
    rw [Source.obtain_of_result rfl (Nat.zero_le _)]
    exact ⟨rfl, rfl⟩
  obtain ⟨hn, hnow⟩ := h
  have hd := ((check_timing .plain [] running_plain (by decide)).2 List.not_mem_nil).2 _ hn
    (by rw [hnow]; decide)
  have hc := hd.2 7000 (by rw [hnow]; decide) (by rw [hnow]; decide)
  rwa [Time.Span.ticks_ofMillis] at hc

end Tether.Agent
