import Mathlib.Algebra.Ring.Nat
import Tether.Proofs.Supervisor.Demand
import Tether.Proofs.Supervisor.Schedule
import Tether.Proofs.Supervisor.Stopping

/-!
Requests for another session. There is room for one request that waits; a call that finds it taken
stands for the same request. A supervisor that watches its session takes a request at once. One that
is in the middle of a rebuild lets it wait, and takes it as soon as the rebuild is over, before it
looks after the session again: `Supervisor.Answered` says so on the record. A rebuild does not
last for ever, since a pursuit either uses up an answer of the source's script or comes nearer to
its end, so no request is lost (`Lasts.ends`), unless the rebuild ends where the clock does not
reach the next check any more and the task crashes (`Supervisor.Crashes`); and the requests taken
and waiting together change only with a call that finds no other waiting, so none is answered twice
(`requests_perform`). `requests_coalesced` puts this together.
-/

namespace Tether.Agent

open Tether.Control Tether.Overlay Tether.Sim

/-! ## Reconnects on record -/

/-- The event begins a build, or is what one is begun for. -/
def Event.isCause : Event → Bool
  | .checked _ | .requested | .begun => true
  | _ => false

/-- Nothing on record begins a build or calls for one. -/
def Calm (events : List Event) : Prop := ∀ e ∈ events, e.isCause = false

/-- A request was taken, and at once a build begun for it; the newest event comes first. -/
def IsReconnect (events : List Event) : Prop :=
  ∃ between, events = .begun :: (between ++ [.requested]) ∧ Calm between

/-- A build came to its end. -/
def IsEnding (events : List Event) : Prop := events.countP Event.concludes = 1 ∧ Calm events

/-- All that is on record is that others closed sessions. -/
def Outside (history : List (Nat × Event)) : Prop := ∀ e ∈ history, ∃ id, e.2 = .closedOutside id

namespace Supervisor

/-- The rebuild that was under way still is. -/
structure Lasts (s s' : Supervisor) : Prop where
  setup : s'.setup = s.setup
  building : ∃ p, s'.phase = .building p
  history : ∃ closes, s'.history = closes ++ s.history ∧ Outside closes

/-- The rebuild that was under way came to its end, and at that time the request that waited was
taken and the next build begun. -/
def Answered (s s' : Supervisor) : Prop :=
  ∃ later closes time reconnect ending,
    s'.history = later ++ ((reconnect ++ ending).map (time, ·) ++ (closes ++ s.history)) ∧
      IsReconnect reconnect ∧ IsEnding ending ∧ Outside closes

/-- The rebuild that was under way came to its end at a time from which the clock does not reach the
next check: the task crashed, and the request waits for ever. -/
structure Crashes (s s' : Supervisor) : Prop where
  phase : s'.phase = .crashed
  pending : s'.pending = true
  history : ∃ later closes time ending,
    s'.history = later ++ (ending.map (time, ·) ++ (closes ++ s.history)) ∧
      s.setup.firstCheck? time = none ∧ IsEnding ending ∧ Outside closes ∧ Outside later

/-- The rebuild that was under way is over, and with it the wait of the request. -/
def Ends (s s' : Supervisor) : Prop := s.Answered s' ∨ s.Crashes s'

/-! ## What a reconnect puts on record -/

/-- To take a request is to reconnect. -/
theorem takeRequest_reconnects (s : Supervisor) :
    ∃ events, s.takeRequest.history = events.map (s.now, ·) ++ s.history ∧ IsReconnect events := by
  let begun (between : List Event) : List Event := .begun :: (between ++ [.requested])
  unfold takeRequest reconnect withdraw
  dsimp only
  cases hc : s.current with
  | none =>
    refine ⟨begun [.state .connecting, .state .unhealthy], ?_, _, rfl, ?_⟩
    · simp [tell, note, publish, begun]
    · simp [Calm, Event.isCause]
  | some id =>
    refine ⟨begun [.state .connecting, .closed id, .slot none, .state .unhealthy], ?_, _, rfl, ?_⟩
    · simp [tell, note, publish, publishSlot, closeSession, begun]
    · simp [Calm, Event.isCause]

/-- A rebuild with its key comes to its end, and then the supervisor sets its timer. -/
theorem rebuild_ends (s : Supervisor) (key : Key) :
    ∃ (t : Supervisor) (ending : List Event), s.rebuild key = t.rearm ∧ t.setup = s.setup ∧
      t.now = s.now ∧ t.pending = s.pending ∧
      t.history = ending.map (s.now, ·) ++ s.history ∧ IsEnding ending := by
  have hsetup := s.setup_finishBuild key
  have hnow := s.now_finishBuild key
  have hpending := s.pending_finishBuild key
  have hhistory : ∃ ending, ((s.finishBuild key).1.conclude (s.finishBuild key).2).history =
      ending.map (s.now, ·) ++ s.history ∧ IsEnding ending := by
    unfold finishBuild
    dsimp only
    generalize Agent.build s.net s.setup.settings key = built
    obtain ⟨net, cause | ⟨id, cause⟩ | ⟨id, listener⟩⟩ := built
    · exact ⟨[.state .unhealthy, .failed], rfl, rfl, by simp [Calm, Event.isCause]⟩
    · exact ⟨[.state .unhealthy, .failed, .closed id, .started id], rfl, rfl,
        by simp [Calm, Event.isCause]⟩
    · refine ⟨[.state .connected, .slot (some ⟨s.generation + 1, id⟩), .started id], rfl, rfl, ?_⟩
      simp [Calm, Event.isCause]
  obtain ⟨ending, hh, he⟩ := hhistory
  refine ⟨_, ending, rfl, ?_, ?_, ?_, hh, he⟩
  · rw [setup_conclude, hsetup]
  · rw [now_conclude, hnow]
  · rw [pending_conclude, hpending]

/-! ## A request that waits -/

variable {s₀ s s' : Supervisor}

theorem Answered.later (h : s₀.Answered s) (hs : s.history <:+ s'.history) : s₀.Answered s' := by
  obtain ⟨later, closes, time, reconnect, ending, hh, hr⟩ := h
  obtain ⟨more, hm⟩ := hs
  refine ⟨more ++ later, closes, time, reconnect, ending, ?_, hr⟩
  rw [← hm, hh, List.append_assoc]

/-- A key ends the rebuild, and the request that waited is taken at once unless the timer cannot be
set. -/
theorem Lasts.act_key {p : Pursuit} {key : Key} (h : s₀.Lasts s) (hq : s.pending = true)
    (hp : s.phase = .building p) (hkey : p.stage = .asking (.ok key)) : s₀.Ends s.act := by
  obtain ⟨hset, -, closes, hh, hcloses⟩ := h
  obtain ⟨log, ha⟩ := Supervisor.act_key hp hkey
  obtain ⟨t, ending, ht, hsetup, hnow, hpending, hhistory, hending⟩ :=
    rebuild_ends { s with now := p.due, log := log } key
  have hq' : t.pending = true := hpending.trans hq
  have hbefore : t.history = ending.map (p.due, ·) ++ (closes ++ s₀.history) := by
    rw [hhistory, hh]
  rw [ha, ht]
  cases hf : t.setup.firstCheck? t.now with
  | none =>
    refine Or.inr ⟨?_, ?_, [], closes, p.due, ending, ?_, ?_, hending, hcloses, by simp [Outside]⟩
    · simp only [rearm, hf]
    · simp only [rearm, hf]
      exact hq'
    · simp only [rearm, hf]
      exact hbefore
    · rw [← hset, ← hf, hsetup, hnow]
  | some deadline =>
    -- the request is taken right behind the end of the rebuild
    let watching : Supervisor := { t with phase := .watching deadline }
    have htake : t.rearm = watching.takeRequest := by
      simp only [rearm, hf]
      rw [rest_watching rfl, if_pos hq']
    obtain ⟨reconnect, hreconnect, hr⟩ := watching.takeRequest_reconnects
    refine Or.inl ⟨[], closes, p.due, reconnect, ending, ?_, hr, hending, hcloses⟩
    rw [htake, hreconnect]
    show reconnect.map (t.now, ·) ++ t.history = _
    rw [hnow, hbefore, List.map_append, List.append_assoc]
    rfl

/-- An action that brings no key goes on with the rebuild. -/
theorem Lasts.act_pursuing {p p' : Pursuit} (h : s₀.Lasts s) (hq : s.pending = true)
    (hp : s.phase = .building p)
    (hact : (p.act s.source s.setup.retry).2.1 = .pursuing p') :
    s₀.Lasts s.act ∧ s.act.pending = true ∧ s.act.phase = .building p' ∧
      s.act.source = (p.act s.source s.setup.retry).1 := by
  unfold Supervisor.act
  simp only [hp, hact]
  exact ⟨⟨h.setup, ⟨p', rfl⟩, h.history⟩, hq, trivial, trivial⟩

/-- An action in the middle of a rebuild goes on with it, or ends it. -/
theorem Lasts.act (h : s₀.Lasts s) (hq : s.pending = true) :
    s₀.Lasts s.act ∧ s.act.pending = true ∨ s₀.Ends s.act := by
  obtain ⟨p, hp⟩ := h.building
  cases hact : (p.act s.source s.setup.retry).2.1 with
  | pursuing p' =>
    obtain ⟨hl, hq', -⟩ := h.act_pursuing hq hp hact
    exact Or.inl ⟨hl, hq'⟩
  | got key => exact Or.inr (h.act_key hq hp (Pursuit.stage_of_got hact))

/-- What is over stays over. -/
theorem Ends.runTo (limit : Nat) (h : s₀.Ends s) : s₀.Ends (s.runTo limit) := by
  obtain ha | hc := h
  · exact Or.inl (ha.later (suffix_runTo _ _))
  · have hidle : s.runTo limit = s := by
      apply runTo_idle
      simp only [due?, hc.phase]
    rw [hidle]
    exact Or.inr hc

theorem Lasts.runTo (limit : Nat) (h : s₀.Lasts s) (hq : s.pending = true) :
    s₀.Lasts (s.runTo limit) ∧ (s.runTo limit).pending = true ∨ s₀.Ends (s.runTo limit) := by
  fun_induction Supervisor.runTo s limit with
  | case1 s hd => exact Or.inl ⟨h, hq⟩
  | case2 s due hd hle ih =>
    obtain ⟨hl, hq'⟩ | he := h.act hq
    · exact ih hl hq'
    · exact Or.inr (he.runTo _)
  | case3 s due hd hle => exact Or.inl ⟨h, hq⟩

/-- A call finds room for a request, or stands for the one that waits, or finds nobody at work. -/
theorem ask_pending (s : Supervisor) (times : Nat) :
    ∃ log, s.ask times =
      { s with pending := s.pending || s.isAlive && decide (0 < times), log := log } := by
  unfold ask
  induction times with
  | zero => exact ⟨s.log, by simp⟩
  | succ n ih =>
    obtain ⟨log, hlog⟩ := ih
    rw [Nat.fold_succ, hlog]
    have halive : ∀ pending, isAlive { s with pending := pending, log := log } = s.isAlive :=
      fun _ => rfl
    unfold request
    rw [halive]
    cases s.pending <;> cases s.isAlive <;> cases n <;> simp [tell]

theorem isAlive_building {p : Pursuit} (h : s.phase = .building p) : s.isAlive = true := by
  unfold isAlive
  rw [h]

theorem isAlive_watching {due : Time.Span} (h : s.phase = .watching due) : s.isAlive = true := by
  unfold isAlive
  rw [h]

theorem perform_reconnect (h : s.isAlive = true) (times : Nat) :
    s.perform (.reconnect times) = s.requestTimes times := by
  have hs : s.isStopped = false := by
    unfold isAlive at h
    unfold isStopped
    split at h <;> simp_all
  simp only [Supervisor.perform, hs]
  rfl

/-- In the middle of a rebuild a call leaves a request behind, and nothing else that shows. -/
theorem requestTimes_building {p : Pursuit} (h : s.phase = .building p) (times : Nat) :
    ∃ log, s.requestTimes times =
      { s with pending := s.pending || decide (0 < times), log := log } := by
  obtain ⟨log, hlog⟩ := s.ask_pending times
  rw [isAlive_building h, Bool.true_and] at hlog
  refine ⟨log, ?_⟩
  show (s.ask times).react = _
  rw [hlog]
  unfold react
  dsimp only
  rw [h]

/-- A call in the middle of a rebuild leaves it as it is, and a request waits. -/
theorem lasts_perform {p : Pursuit} {times : Nat} (h : s.phase = .building p) (ht : 0 < times) :
    s.Lasts (s.perform (.reconnect times)) ∧ (s.perform (.reconnect times)).pending = true := by
  obtain ⟨log, hlog⟩ := requestTimes_building h times
  rw [perform_reconnect (isAlive_building h), hlog]
  exact ⟨⟨rfl, ⟨p, h⟩, [], rfl, by simp [Outside]⟩, by simp [ht]⟩

theorem outside_cons {closes : List (Nat × Event)} (h : Outside closes) (time session : Nat) :
    Outside ((time, .closedOutside session) :: closes) := by
  intro e he
  obtain rfl | he := List.mem_cons.1 he
  · exact ⟨session, rfl⟩
  · exact h e he

/-- No step but the last ends a rebuild in another way. -/
theorem Lasts.perform {x : Step} (hx : x ≠ .shutdown) (h : s₀.Lasts s) (hq : s.pending = true) :
    s₀.Lasts (s.perform x) ∧ (s.perform x).pending = true ∨ s₀.Ends (s.perform x) := by
  cases x with
  | advance time =>
    obtain ⟨⟨hset, hb, hh⟩, hq'⟩ | ha | ⟨hp, hq', hh⟩ := h.runTo (s.now + time) hq
    · exact Or.inl ⟨⟨hset, hb, hh⟩, hq'⟩
    · exact Or.inr (Or.inl ha)
    · exact Or.inr (Or.inr ⟨hp, hq', hh⟩)
  | reconnect times =>
    obtain ⟨hset, ⟨p, hp⟩, hh⟩ := h
    obtain ⟨log, hask⟩ := requestTimes_building hp times
    rw [perform_reconnect (isAlive_building hp), hask]
    exact Or.inl ⟨⟨hset, ⟨p, hp⟩, hh⟩, by simp [hq]⟩
  | close session =>
    obtain ⟨hset, hb, closes, hh, hcloses⟩ := h
    refine Or.inl ⟨⟨hset, hb, (s.now, .closedOutside session) :: closes, ?_, ?_⟩, hq⟩
    · show (s.now, .closedOutside session) :: s.history = _
      rw [hh]
      rfl
    · exact outside_cons hcloses _ _
  | shutdown => exact absurd rfl hx
  | scriptHealth _ | failNextStarts _ | failListen _ =>
    exact Or.inl ⟨⟨h.setup, h.building, h.history⟩, hq⟩

/-- A task that crashed does nothing any more. -/
theorem Crashes.perform {x : Step} (hx : x ≠ .shutdown) (h : s₀.Crashes s) :
    s₀.Crashes (s.perform x) := by
  obtain ⟨hp, hq, later, closes, time, ending, hh, hf, hending, hcloses, hlater⟩ := h
  have hs : s.isStopped = false := by simp only [isStopped, hp]
  have hsame {s' : Supervisor} (hp' : s'.phase = s.phase) (hq' : s'.pending = s.pending)
      (hh' : s'.history = s.history) : s₀.Crashes s' :=
    ⟨hp'.trans hp, hq'.trans hq, later, closes, time, ending, hh'.trans hh, hf, hending, hcloses,
      hlater⟩
  cases x with
  | advance t =>
    have hidle : s.runTo (s.now + t) = s := runTo_idle (by simp only [due?, hp])
    show s₀.Crashes { s.runTo (s.now + t) with now := s.now + t }
    rw [hidle]
    exact hsame rfl rfl rfl
  | reconnect times =>
    obtain ⟨log, hlog⟩ := s.ask_pending times
    simp only [Supervisor.perform, hs]
    show s₀.Crashes (s.ask times).react
    rw [hlog, react_eq, if_neg (by simp [isCalled, hp])]
    exact hsame rfl (by simp [hq]) rfl
  | close session =>
    refine ⟨hp, hq, (s.now, .closedOutside session) :: later, closes, time, ending, ?_, hf, hending,
      hcloses, outside_cons hlater _ _⟩
    show (s.now, .closedOutside session) :: s.history = _
    rw [hh]
    rfl
  | shutdown => exact absurd rfl hx
  | scriptHealth _ | failNextStarts _ | failListen _ => exact hsame rfl rfl rfl

/-- A pursuit uses up the answers of the script or comes nearer to its end, so a rebuild ends by
some time. -/
theorem Lasts.ends {s : Supervisor} {p : Pursuit} (h : s₀.Lasts s) (hq : s.pending = true)
    (hp : s.phase = .building p) :
    ∃ bound, ∀ limit, bound ≤ limit → s₀.Ends (s.runTo limit) := by
  have hdue : s.due? = some p.due := by
    unfold due?
    rw [hp]
  cases hact : (p.act s.source s.setup.retry).2.1 with
  | pursuing p' =>
    obtain ⟨hl, hq', hp', hsource⟩ := h.act_pursuing hq hp hact
    have hless := Pursuit.act_decreases hact
    obtain ⟨bound, hbound⟩ := Lasts.ends hl hq' hp'
    refine ⟨max p.due bound, ?_⟩
    intro limit hlimit
    rw [runTo_due hdue (by omega)]
    exact hbound limit (by omega)
  | got key =>
    have he := h.act_key hq hp (Pursuit.stage_of_got hact)
    refine ⟨p.due, ?_⟩
    intro limit hlimit
    rw [runTo_due hdue hlimit]
    exact he.runTo _
termination_by (s.source.remaining, p.rank)
decreasing_by
  rw [hsource]
  obtain hlt | ⟨heq, hlt⟩ := hless
  · exact Prod.Lex.left _ _ hlt
  · rw [heq]
    exact Prod.Lex.right _ hlt

theorem Lasts.ends_in_time (h : s₀.Lasts s) (hq : s.pending = true) :
    ∃ time, s₀.Ends (s.perform (.advance time)) := by
  obtain ⟨p, hp⟩ := h.building
  obtain ⟨bound, hbound⟩ := h.ends hq hp
  refine ⟨bound, ?_⟩
  obtain ha | ⟨hp, hq, hh⟩ := hbound (s.now + bound) (Nat.le_add_left _ _)
  · exact Or.inl (ha.later (List.suffix_refl _))
  · exact Or.inr ⟨hp, hq, hh⟩

/-- As long as a rebuild lasts no request is taken. -/
theorem Lasts.requested (h : s₀.Lasts s) :
    occurrences .requested s.history = occurrences .requested s₀.history := by
  obtain ⟨-, -, closes, hh, hcloses⟩ := h
  have hnone : closes.countP (fun e => e.2 == .requested) = 0 := by
    rw [List.countP_eq_zero]
    intro e he
    obtain ⟨id, hid⟩ := hcloses e he
    simp [hid]
  rw [hh, occurrences, List.countP_append, hnone]
  exact Nat.zero_add _

theorem Answered.requested (h : s₀.Answered s) :
    occurrences .requested s₀.history < occurrences .requested s.history := by
  obtain ⟨later, closes, time, reconnect, ending, hh, ⟨between, rfl, -⟩, -⟩ := h
  have hsplit : s.history = (later ++ (time, .begun) :: between.map (time, ·)) ++
      (time, .requested) :: (ending.map (time, ·) ++ closes ++ s₀.history) := by
    rw [hh]
    simp
  rw [hsplit]
  unfold occurrences
  rw [List.countP_append, List.countP_cons_of_pos rfl]
  simp only [List.countP_append]
  omega

/-! ## Rows of steps -/

theorem suffix_react (s : Supervisor) : s.history <:+ s.react.history := by
  rw [react_eq]
  split
  · obtain ⟨events, hevents, -⟩ := s.takeRequest_reconnects
    have htaken : s.history <:+ s.takeRequest.history := by
      rw [hevents]
      exact List.suffix_append _ _
    exact htaken.trans (suffix_runTo _ _)
  · exact List.suffix_refl _

theorem suffix_stop (s : Supervisor) : s.history <:+ s.stop.history := by
  unfold stop
  dsimp only
  split
  · exact List.suffix_refl _
  · exact List.suffix_cons _ _

/-- Nothing is ever taken off the record. -/
theorem suffix_perform (s : Supervisor) (x : Step) : s.history <:+ (s.perform x).history := by
  cases x with
  | advance time => exact suffix_runTo s _
  | reconnect times =>
    unfold Supervisor.perform
    dsimp only
    split
    · exact List.suffix_refl _
    · have hreact := (s.ask times).suffix_react
      obtain ⟨pending, log, he⟩ := s.ask_eq times
      have hask : (s.ask times).history = s.history := by rw [he]
      rwa [hask] at hreact
  | close session => exact List.suffix_cons _ _
  | shutdown =>
    unfold Supervisor.perform
    dsimp only
    split
    · exact List.suffix_refl _
    · exact suffix_stop s
  | scriptHealth _ | failNextStarts _ | failListen _ => exact List.suffix_refl _

/-- As long as nobody shuts the supervisor down, what is over stays over. -/
theorem Ends.steps {steps : List Step} (hsteps : Step.shutdown ∉ steps) (h : s₀.Ends s) :
    s₀.Ends (steps.foldl Supervisor.perform s) := by
  induction steps generalizing s with
  | nil => exact h
  | cons x steps ih =>
    rw [List.mem_cons, not_or] at hsteps
    apply ih hsteps.2
    obtain ha | hc := h
    · exact Or.inl (ha.later (suffix_perform s x))
    · exact Or.inr (hc.perform (Ne.symm hsteps.1))

/-- As long as nobody shuts the supervisor down a request waits for the end of the rebuild. -/
theorem Lasts.steps {steps : List Step} (hsteps : Step.shutdown ∉ steps) (h : s₀.Lasts s)
    (hq : s.pending = true) :
    s₀.Lasts (steps.foldl Supervisor.perform s) ∧
        (steps.foldl Supervisor.perform s).pending = true ∨
      s₀.Ends (steps.foldl Supervisor.perform s) := by
  induction steps generalizing s with
  | nil => exact Or.inl ⟨h, hq⟩
  | cons x steps ih =>
    rw [List.mem_cons, not_or] at hsteps
    obtain ⟨hl, hq'⟩ | he := h.perform (Ne.symm hsteps.1) hq
    · exact ih hsteps.2 hl hq'
    · right
      rw [List.foldl_cons]
      exact he.steps hsteps.2

/-! ## Requests taken and waiting -/

/-- The requests that were taken or wait to be. -/
def requests (s : Supervisor) : Nat := occurrences .requested s.history + s.pending.toNat

/-- The requests that a step puts in: calls for another session make one, if none waits. -/
def accepts (s : Supervisor) : Step → Nat
  | .reconnect times => (s.isAlive && !s.pending && decide (0 < times)).toNat
  | _ => 0

end Supervisor

/-- How often a step asks for another session. -/
def Step.calls : Step → Nat
  | .reconnect times => times
  | _ => 0

namespace Moment

/-- An atomic action takes the request that waits, and puts in none. -/
theorem requests_work (m : Moment) : m.work.supervisor.requests = m.supervisor.requests := by
  obtain ⟨first, duty, s⟩ := m
  unfold Supervisor.requests
  cases duty with
  | withdraw | start _ | listen _ =>
    simp only [work]
    split <;> simp [Supervisor.publishSlot, Supervisor.note, Supervisor.tell]
  | conclude e =>
    cases first with
    | false =>
      cases e <;>
        simp [work, Supervisor.conclude, Supervisor.publish, Supervisor.note, Supervisor.tell]
    | true =>
      cases e with
      | none =>
        simp only [work, Supervisor.enter]
        split <;> rfl
      | some e => simp [work, Supervisor.publish, Supervisor.note]
  | rearm =>
    simp only [work]
    split <;> rfl
  | rest =>
    simp only [work]
    split
    · rename_i hc
      obtain ⟨-, hq⟩ := Supervisor.isCalled_iff.1 hc
      simp [hq, Supervisor.note, Supervisor.tell]
    · rfl
  | _ =>
    simp [work, Supervisor.closeSession, Supervisor.publish, Supervisor.publishSlot,
      Supervisor.note, Supervisor.tell]

theorem Leads.requests {m m' : Moment} (h : Leads m m') :
    m'.supervisor.requests = m.supervisor.requests := by
  induction h with
  | refl => rfl
  | tail _ hw ih =>
    subst hw
    exact (requests_work _).trans ih

end Moment

namespace Supervisor

variable {s : Supervisor}

theorem requests_act (s : Supervisor) : s.act.requests = s.requests := by
  cases hp : s.phase with
  | watching due =>
    rw [act_watching hp]
    exact (Moment.check_leads false { s with now := due.ticks } due).requests
  | building p =>
    simp only [act, hp]
    split
    · rfl
    · exact (Moment.rebuild_leads _ _).requests
  | crashed =>
    simp only [act, hp]
  | stopped =>
    simp only [act, hp]

theorem requests_runTo (s : Supervisor) (limit : Nat) : (s.runTo limit).requests = s.requests := by
  fun_induction runTo s limit with
  | case1 s hd => rfl
  | case2 s due hd hle ih => exact ih.trans (requests_act s)
  | case3 s due hd hle => rfl

theorem requests_ask (s : Supervisor) (times : Nat) :
    (s.ask times).requests = s.requests + s.accepts (.reconnect times) := by
  obtain ⟨log, hlog⟩ := s.ask_pending times
  have hroom : ∀ full alive called : Bool, (full || alive && called).toNat =
      full.toNat + (alive && !full && called).toNat := by decide
  rw [hlog]
  show occurrences .requested s.history + (s.pending || s.isAlive && decide (0 < times)).toNat =
    occurrences .requested s.history + s.pending.toNat +
      (s.isAlive && !s.pending && decide (0 < times)).toNat
  rw [hroom, Nat.add_assoc]

theorem requests_react (s : Supervisor) : s.react.requests = s.requests := by
  rw [react_eq]
  split
  · rename_i hc
    have hrest : s.takeRequest = s.rest := by
      rw [rest, if_pos hc]
    rw [requests_runTo, hrest]
    exact (Moment.rest_leads false s).requests
  · rfl

/-- The requests taken and waiting change only with a call that finds no other waiting. -/
theorem requests_perform (s : Supervisor) (x : Step) :
    (s.perform x).requests = s.requests + s.accepts x := by
  cases x with
  | advance time => exact requests_runTo s (s.now + time)
  | reconnect times =>
    unfold Supervisor.perform
    dsimp only
    split
    · rename_i hs
      have hdead : s.isAlive = false := by
        unfold isStopped at hs
        unfold isAlive
        split at hs
        · rename_i hp
          rw [hp]
        · cases hs
      simp [accepts, hdead]
    · exact (requests_react (s.ask times)).trans (requests_ask s times)
  | close session =>
    simp [Supervisor.perform, closeOutside, requests, accepts, note]
  | shutdown =>
    unfold Supervisor.perform stop
    dsimp only
    split
    · rfl
    · split
      · rfl
      · simp [closeSession, requests, accepts, note]
  | scriptHealth _ | failNextStarts _ | failListen _ => rfl

theorem accepts_le (s : Supervisor) (x : Step) : s.accepts x ≤ x.calls := by
  cases x with
  | reconnect times =>
    unfold accepts Step.calls
    by_cases ht : 0 < times
    · exact Nat.le_trans (Bool.toNat_le _) ht
    · simp [ht]
  | _ => exact Nat.le_refl _

/-- No more requests are taken than calls were made. -/
theorem requests_steps_le (s : Supervisor) (steps : List Step) :
    (steps.foldl Supervisor.perform s).requests ≤ s.requests + (steps.map Step.calls).sum := by
  induction steps generalizing s with
  | nil => exact Nat.le_refl _
  | cons x steps ih =>
    have hrest := ih (s.perform x)
    have hx := requests_perform s x
    have hcalls := accepts_le s x
    rw [List.map_cons, List.sum_cons, List.foldl_cons]
    omega

/-- Without a call no request is put in and none gets lost. -/
theorem requests_steps_eq (s : Supervisor) {steps : List Step}
    (h : ∀ x ∈ steps, Step.calls x = 0) :
    (steps.foldl Supervisor.perform s).requests = s.requests := by
  induction steps generalizing s with
  | nil => rfl
  | cons x steps ih =>
    rw [List.forall_mem_cons] at h
    have hnone : s.accepts x = 0 := by
      have hx := accepts_le s x
      rw [h.1] at hx
      exact Nat.le_zero.1 hx
    calc (steps.foldl Supervisor.perform (s.perform x)).requests
      _ = (s.perform x).requests := ih (s.perform x) h.2
      _ = s.requests + s.accepts x := requests_perform s x
      _ = s.requests := by rw [hnone, Nat.add_zero]

/-! ## A request that is taken at once -/

/-- Behind a rebuild behind which no request waits nothing more is due in this millisecond. -/
theorem rebuild_rests (hq : s.pending = false) (key : Key) :
    ∃ ending : List Event,
      (s.rebuild key).history = ending.map (s.now, ·) ++ s.history ∧ IsEnding ending ∧
      (s.rebuild key).pending = false ∧ ∀ due, (s.rebuild key).due? = some due → s.now < due := by
  obtain ⟨t, ending, ht, -, hnow, hpending, hhistory, hending⟩ := s.rebuild_ends key
  rw [hq] at hpending
  obtain ⟨phase, hidle⟩ := rearm_idle hpending
  have hrest : t.rearm.history = t.history ∧ t.rearm.pending = false := by
    rw [hidle]
    exact ⟨rfl, hpending⟩
  rw [ht]
  refine ⟨ending, hrest.1.trans hhistory, hending, hrest.2, ?_⟩
  intro due hdue
  rw [← hnow]
  obtain hlt | ⟨-, hwaits, -⟩ := rearm_follows t due hdue
  · exact hlt
  · rw [hpending] at hwaits
    cases hwaits

/-- Behind a request that was taken nothing is checked and no build begun before the clock moves. -/
theorem runTo_calm {limit : Nat} (hq : s.pending = false)
    (h : (∃ p, s.phase = .building p ∧ limit ≤ p.due) ∨ ∀ due, s.due? = some due → limit < due) :
    ∃ later, (s.runTo limit).history = later.map (limit, ·) ++ s.history ∧ Calm later ∧
      (s.runTo limit).pending = false := by
  fun_induction runTo s limit with
  | case1 s hd => exact ⟨[], rfl, by simp [Calm], hq⟩
  | case2 s due hd hle ih =>
    obtain ⟨p, hp, hlimit⟩ | hlater := h
    · have hdue : p.due = due := by
        unfold due? at hd
        rw [hp] at hd
        exact Option.some.inj hd
      cases hact : (p.act s.source s.setup.retry).2.1 with
      | pursuing p' =>
        have hnext := Pursuit.due_act hact
        have hgoes : s.act.history = s.history ∧ s.act.pending = false ∧
            s.act.phase = .building p' := by
          simp only [act, hp, hact]
          exact ⟨trivial, hq, trivial⟩
        obtain ⟨hhistory, hq', hp'⟩ := hgoes
        rw [← hhistory]
        exact ih hq' (Or.inl ⟨p', hp', Nat.le_trans hlimit hnext⟩)
      | got key =>
        -- the rebuild ends within the millisecond, and nothing more is due in it
        obtain ⟨log, ha⟩ := act_key hp (Pursuit.stage_of_got hact)
        obtain ⟨ending, hhistory, hending, hq', hlt⟩ :=
          rebuild_rests (s := { s with now := p.due, log := log }) hq key
        have hnow : p.due = limit := by omega
        rw [← ha] at hhistory hq' hlt
        simp only [hnow] at hhistory hlt
        obtain ⟨later, hlater, hcalm, hq''⟩ := ih hq' (Or.inr hlt)
        refine ⟨later ++ ending, ?_, ?_, hq''⟩
        · rw [hlater, hhistory, List.map_append, List.append_assoc]
        · intro e he
          obtain he | he := List.mem_append.1 he
          · exact hcalm e he
          · exact hending.2 e he
    · have hlt := hlater due hd
      omega
  | case3 s due hd hle => exact ⟨[], rfl, by simp [Calm], hq⟩

/-- A supervisor that watches its session takes a request at once, however many calls made it. -/
theorem requestTimes_watching {due : Time.Span} {times : Nat} (hp : s.phase = .watching due)
    (ht : 0 < times) :
    ∃ log, s.requestTimes times =
      (takeRequest { s with pending := true, log := log }).runTo s.now := by
  obtain ⟨log, hlog⟩ := s.ask_pending times
  refine ⟨log, ?_⟩
  show (s.ask times).react = _
  rw [hlog, isAlive_watching hp, decide_eq_true ht, Bool.and_true, Bool.or_true]
  unfold react
  simp only [hp, if_true]

/-- It is one reconnect, and nothing else is begun or checked in that millisecond. -/
theorem watching_reconnects {due : Time.Span} {times : Nat} (hp : s.phase = .watching due)
    (ht : 0 < times) :
    (s.perform (.reconnect times)).pending = false ∧
      ∃ later reconnect, (s.perform (.reconnect times)).history =
        (later ++ reconnect).map (s.now, ·) ++ s.history ∧ IsReconnect reconnect ∧ Calm later := by
  obtain ⟨log, hlog⟩ := requestTimes_watching hp ht
  rw [perform_reconnect (isAlive_watching hp), hlog]
  generalize ht' : ({ s with pending := true, log := log } : Supervisor) = t
  have hnow : t.now = s.now := by rw [← ht']
  obtain ⟨reconnect, hhistory, hr⟩ := t.takeRequest_reconnects
  have hpending : t.takeRequest.pending = false := by
    unfold takeRequest
    exact pending_reconnect _
  have hphase : ∃ p, t.takeRequest.phase = .building p ∧ s.now ≤ p.due := by
    refine ⟨_, phase_reconnect _, ?_⟩
    rw [← hnow]
    exact Nat.le_add_right _ _
  obtain ⟨later, hlater, hcalm, hq⟩ := runTo_calm hpending (Or.inl hphase)
  refine ⟨hq, later, reconnect, ?_, hr, hcalm⟩
  rw [hlater, hhistory, List.map_append, List.append_assoc, hnow, ← ht']

end Supervisor

/-! ## Every run -/

theorem requests_start (l : Launch) : l.start.1.requests = 0 := by
  unfold Launch.start Supervisor.start
  dsimp only
  generalize (Source.ofScript l.replies).obtain l.setup.retry l.now l.deadline = run
  let s : Supervisor := ((Supervisor.fresh l.setup l.net (.ofScript l.replies) l.now).publish
    .connecting).note .begun
  cases hq : run.progress with
  | pursuing p => rfl
  | got key =>
    exact (Moment.comeUp_leads { s with
      source := run.source, now := run.now, log := run.log.reverse ++ s.log } .stopped key
        rfl).requests

/-- A run that waits for anything came up and was not shut down. -/
theorem running_of_alive {l : Launch} {steps : List Step} (h : (l.run steps).isAlive = true) :
    l.start.2 = .running ∧ Step.shutdown ∉ steps := by
  have hphase : (l.run steps).phase ≠ .stopped := by
    intro hp
    simp [Supervisor.isAlive, hp] at h
  have hl : l.start.2 = .running := by
    by_contra hl
    exact hphase (over_run (Or.inl hl)).stopped
  have hsteps : Step.shutdown ∉ steps := by
    intro hs
    exact hphase (over_run (Or.inr hs)).stopped
  exact ⟨hl, hsteps⟩

/-- A supervisor that watches its session takes a request at once, and answers it once. -/
theorem watching_answers (l : Launch) (steps : List Step) {times : Nat} (ht : 0 < times)
    {due : Time.Span} (hp : (l.run steps).phase = .watching due) :
    let s := l.run steps
    let asking := steps ++ [.reconnect times]
    (∃ later reconnect, (l.run asking).history =
        (later ++ reconnect).map (s.now, ·) ++ s.history ∧ IsReconnect reconnect ∧ Calm later) ∧
      (l.run asking).pending = false ∧
      ∀ more, (∀ x ∈ more, Step.calls x = 0) →
        (l.run (asking ++ more)).requests = occurrences .requested s.history + 1 := by
  intro s asking
  have hasked : l.run asking = s.perform (.reconnect times) := run_concat l steps _
  have halive : s.isAlive = true := Supervisor.isAlive_watching hp
  have hnone : s.pending = false := by
    obtain ⟨hl, hsteps⟩ := running_of_alive halive
    have hwork : s.AtWork := atWork_run hl hsteps
    unfold Supervisor.AtWork at hwork
    rw [hp] at hwork
    exact hwork.1
  obtain ⟨hq, hreconnects⟩ := Supervisor.watching_reconnects hp ht
  rw [hasked]
  refine ⟨hreconnects, hq, ?_⟩
  intro more hmore
  calc (l.run (asking ++ more)).requests
    _ = (l.run asking).requests := by rw [run_append, Supervisor.requests_steps_eq _ hmore]
    _ = s.requests + s.accepts (.reconnect times) := by
      rw [hasked, Supervisor.requests_perform]
    _ = occurrences .requested s.history + 1 := by
      simp [Supervisor.requests, Supervisor.accepts, hnone, halive, ht]

/-- A supervisor in the middle of a rebuild answers all calls together, behind the rebuild. -/
theorem building_answers (l : Launch) (steps : List Step) {times : Nat} (ht : 0 < times)
    {p : Pursuit} (hp : (l.run steps).phase = .building p) {during : List Step}
    (hduring : Step.shutdown ∉ during) :
    let s := l.run steps
    let asking := steps ++ [.reconnect times]
    let s' := l.run (asking ++ during)
    (s.Lasts s' ∧ s'.pending = true ∨ s.Ends s') ∧
      (s.Crashes s' → l.setup.firstCheck? s'.now = none) ∧
      (∃ time, s.Ends (l.run (asking ++ during ++ [.advance time]))) ∧
      (s.Lasts s' → ∀ more, (∀ x ∈ more, Step.calls x = 0) →
        (l.run (asking ++ during ++ more)).requests = occurrences .requested s.history + 1) := by
  intro s asking s'
  obtain ⟨hlasts, hwaits⟩ := Supervisor.lasts_perform hp ht
  have hrun : s.Lasts s' ∧ s'.pending = true ∨ s.Ends s' := by
    have hs' : s' = during.foldl Supervisor.perform (s.perform (.reconnect times)) := by
      have hasked : l.run asking = s.perform (.reconnect times) := run_concat l steps _
      rw [← hasked]
      exact run_append l asking during
    rw [hs']
    exact hlasts.steps hduring hwaits
  refine ⟨hrun, ?_, ?_, ?_⟩
  · intro hc
    obtain ⟨hl, hsteps⟩ := running_of_alive (Supervisor.isAlive_building hp)
    have hwork : s'.AtWork := by
      apply atWork_run hl
      simp [asking, hsteps, hduring]
    simp only [Supervisor.AtWork, hc.phase, s', setup_run hl] at hwork
    exact hwork
  · obtain ⟨hl, hq⟩ | he := hrun
    · obtain ⟨time, he⟩ := hl.ends_in_time hq
      refine ⟨time, ?_⟩
      rw [run_concat]
      exact he
    · refine ⟨0, ?_⟩
      rw [run_concat]
      exact Supervisor.Ends.steps (by simp : Step.shutdown ∉ [Step.advance 0]) he
  · intro hl more hmore
    have hsame := hl.requested
    -- a request that was taken would be on record
    have hq : s'.pending = true := by
      obtain ⟨-, hq⟩ | ha | hc := hrun
      · exact hq
      · have htaken := ha.requested
        omega
      · exact hc.pending
    calc (l.run (asking ++ during ++ more)).requests
      _ = s'.requests := by rw [run_append, Supervisor.requests_steps_eq _ hmore]
      _ = occurrences .requested s.history + 1 := by
        rw [Supervisor.requests, hsame, hq]
        rfl

/-- A request that was taken was called for. -/
theorem requested_le_calls (l : Launch) (steps : List Step) :
    occurrences .requested (l.run steps).history ≤ (steps.map Step.calls).sum := by
  calc occurrences .requested (l.run steps).history
    _ ≤ (l.run steps).requests := Nat.le_add_right _ _
    _ ≤ l.start.1.requests + (steps.map Step.calls).sum :=
      Supervisor.requests_steps_le l.start.1 steps
    _ = (steps.map Step.calls).sum := by rw [requests_start, Nat.zero_add]

/-- A request, however many calls make it, leads to one more reconnect. A supervisor that watches
its session takes it at once. One in the middle of a rebuild lets it wait, whatever else is done and
however often it is called meanwhile; the rebuild ends in time, and at that time the request is
taken and a build begun, with no check before it. Only where the clock does not reach the next check
from there the task crashes instead, and takes nothing any more. In either case the requests taken
and waiting are one more than those taken before, until the next call. No run takes more requests
than calls were made. -/
theorem requests_coalesced (l : Launch) (steps : List Step) (times : Nat) (ht : 0 < times) :
    let s := l.run steps
    let asking := steps ++ [.reconnect times]
    (∀ due, s.phase = .watching due →
      (∃ later reconnect, (l.run asking).history =
          (later ++ reconnect).map (s.now, ·) ++ s.history ∧ IsReconnect reconnect ∧ Calm later) ∧
      (l.run asking).pending = false ∧
      ∀ more, (∀ x ∈ more, Step.calls x = 0) →
        (l.run (asking ++ more)).requests = occurrences .requested s.history + 1) ∧
    (∀ p, s.phase = .building p → ∀ during, Step.shutdown ∉ during →
      let s' := l.run (asking ++ during)
      (s.Lasts s' ∧ s'.pending = true ∨ s.Answered s' ∨ s.Crashes s') ∧
      (s.Crashes s' → l.setup.firstCheck? s'.now = none) ∧
      (∃ time, let s'' := l.run (asking ++ during ++ [.advance time])
        s.Answered s'' ∨ s.Crashes s'') ∧
      (s.Lasts s' → ∀ more, (∀ x ∈ more, Step.calls x = 0) →
        (l.run (asking ++ during ++ more)).requests = occurrences .requested s.history + 1)) ∧
    occurrences .requested s.history ≤ (steps.map Step.calls).sum := by
  intro s asking
  refine ⟨?_, ?_, requested_le_calls l steps⟩
  · intro due hp
    exact watching_answers l steps ht hp
  · intro p hp during hduring
    exact building_answers l steps ht hp hduring

/-- A launch whose second key takes a second. -/
def Launch.slow : Launch :=
  { Launch.plain with replies := [⟨0, .numbered⟩, ⟨1000, .numbered⟩] }

theorem slow_building : ∃ p, (Launch.slow.run [.reconnect 1]).phase = .building p := by
  have hwatching : (Launch.slow.run []).phase = .watching (.ofMillis 5000) ∧
      (Launch.slow.run []).now = 0 ∧ (Launch.slow.run []).source = ⟨Launch.slow.replies, [0]⟩ := by
    unfold Launch.run Launch.start Supervisor.start
    rw [Source.obtain_of_result rfl (Nat.zero_le _)]
    exact ⟨rfl, rfl, rfl⟩
  obtain ⟨hp, hnow, hsource⟩ := hwatching
  obtain ⟨log, hlog⟩ := Supervisor.requestTimes_watching hp Nat.one_pos
  let t : Supervisor := { Launch.slow.run [] with pending := true, log := log }
  have hrun : Launch.slow.run [.reconnect 1] = t.takeRequest.runTo 0 := by
    show (Launch.slow.run []).perform (.reconnect 1) = _
    rw [Supervisor.perform_reconnect (Supervisor.isAlive_watching hp), hlog]
    exact congrArg t.takeRequest.runTo hnow
  have hphase : t.takeRequest.phase = .building (t.source.ask t.now 1).2 :=
    Supervisor.phase_reconnect _
  have hdue : t.takeRequest.due? = some 1000 := by
    have hask : (t.source.ask t.now 1).2.due = 1000 := by
      show ((Launch.slow.run []).source.ask (Launch.slow.run []).now 1).2.due = 1000
      rw [hnow, hsource]
      rfl
    unfold Supervisor.due?
    rw [hphase]
    exact congrArg some hask
  rw [hrun, Supervisor.runTo_of_lt hdue (by decide)]
  exact ⟨_, hphase⟩

/-- A plain launch that is asked twice reconnects once; one that is asked again and again in the
middle of a slow rebuild reconnects behind it. -/
theorem requests_coalesced_plain :
    (∃ due, (Launch.plain.run []).phase = .watching due) ∧
      (Launch.plain.run [.reconnect 2]).pending = false ∧
      (Launch.plain.run [.reconnect 2, .advance 20000]).requests = 1 ∧
      (∃ p, (Launch.slow.run [.reconnect 1]).phase = .building p) ∧
      ∃ time, (Launch.slow.run [.reconnect 1]).Ends
        (Launch.slow.run [.reconnect 1, .reconnect 3, .close 1, .reconnect 2, .advance time]) := by
  have hplain : ∃ due, (Launch.plain.run []).phase = .watching due ∧
      occurrences .requested (Launch.plain.run []).history = 0 := by
    unfold Launch.run Launch.start Supervisor.start
    rw [Source.obtain_of_result rfl (Nat.zero_le _)]
    exact ⟨_, rfl, rfl⟩
  obtain ⟨due, hp, hnone⟩ := hplain
  obtain ⟨p, hslow⟩ := slow_building
  obtain ⟨hidle, -, -⟩ := requests_coalesced .plain [] 2 (by decide)
  obtain ⟨-, hbusy, -⟩ := requests_coalesced .slow [.reconnect 1] 3 (by decide)
  obtain ⟨-, hq, hcount⟩ := hidle due hp
  have hone := hcount [.advance 20000] (by decide)
  rw [hnone] at hone
  obtain ⟨-, -, hends, -⟩ := hbusy p hslow [.close 1, .reconnect 2] (by decide)
  exact ⟨⟨due, hp⟩, hq, hone, ⟨p, hslow⟩, hends⟩

end Tether.Agent
