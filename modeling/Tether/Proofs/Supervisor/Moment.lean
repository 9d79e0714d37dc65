import Mathlib.Logic.Relation
import Tether.Proofs.Supervisor.Run

/-!
A supervisor at work. Between two waits it does several things in a row, and each of them shows: it
publishes a state, withdraws the slot, closes a session, starts another. A moment is a supervisor
between two such actions, with the one that comes next. `Moment.work` is one atomic action,
`Moment.wake` the end of a wait, and `Reaches` what any order of them and of outside events can
lead to. What holds at first and is kept by each of them holds of all moments within reach
(`Reaches.keeps`); behind a wait nothing but closes goes on record before the next atomic action
(`Next.quiet`). What `Supervisor.act` does in one go is what a row of atomic actions does:
`Reaches.act`.
-/

namespace Tether.Agent

open Tether.Control Tether.Overlay Tether.Sim

/-- What a supervisor does next. -/
inductive Duty
  /-- Nothing, before the time that it waits for. -/
  | wait
  /-- Check the health of the session it holds, which was due at a time. -/
  | check (deadline : Time.Span)
  /-- Publish that the check passed that was due at a time. -/
  | pass (deadline : Time.Span)
  /-- Publish that the session is of no more use. -/
  | fall
  /-- Withdraw the session in service, if there is one. -/
  | withdraw
  /-- Close the session that was withdrawn. -/
  | close (session : Nat)
  /-- Publish that a session is being built. -/
  | announce
  /-- Begin a build: ask for a key. -/
  | ask
  /-- Start a session with a key. -/
  | start (key : Key)
  /-- Give the session its fallback. -/
  | equip (session : Nat)
  /-- Listen on the liveness port of the session. -/
  | listen (session : Nat)
  /-- Close the session that could not be listened on. -/
  | discard (session : Nat) (cause : Overlay.Error)
  /-- Count the session and hold it. -/
  | hold (session : Nat)
  /-- Publish the session. -/
  | publish (session : Nat)
  /-- Publish that the session is in service. -/
  | confirm
  /-- Report what the build came to. -/
  | conclude (e : Option Error)
  /-- Set the timer anew behind a replacement. -/
  | rearm
  /-- Take the request that waits, or wait for the next check. -/
  | rest

/-- What a supervisor may do first behind a wait. -/
def Duty.opens : Duty → Bool
  | .wait | .check _ | .start _ | .rest => true
  | _ => false

/-- A supervisor between two atomic actions, and whether its first build is still under way. -/
structure Moment where
  first : Bool
  duty : Duty
  supervisor : Supervisor

/-- The supervisor of a launch before it does anything. -/
def Launch.first (l : Launch) : Moment :=
  ⟨true, .announce, .fresh l.setup l.net (.ofScript l.replies) l.now⟩

namespace Moment

/-- The atomic action that comes next. -/
def work (m : Moment) : Moment :=
  let s := m.supervisor
  match m.duty with
  | .wait => m
  | .check deadline =>
    let checked := checkHealth s.net s.current
    let s := ({ s with net := checked.1 } : Supervisor).tell (s.checkedEntry checked.2)
    ⟨m.first, if checked.2.isOk then .pass deadline else .fall, s.note (.checked checked.2.isOk)⟩
  | .pass deadline =>
    ⟨m.first, .wait, { s.publish .connected with phase := .watching (deadline + s.setup.period) }⟩
  | .fall => ⟨m.first, .withdraw, s.publish .unhealthy⟩
  | .withdraw =>
    match s.current with
    | none => ⟨m.first, .announce, s⟩
    | some id =>
      ⟨m.first, .close id, ({ s with current := none } : Supervisor).publishSlot none⟩
  | .close id => ⟨m.first, .announce, s.closeSession id (.closed id) Supervisor.closeFailedEntry⟩
  | .announce => ⟨m.first, .ask, s.publish .connecting⟩
  | .ask =>
    let (source, p) := s.source.ask s.now 1
    ⟨m.first, .wait,
      ({ s with source := source, phase := .building p } : Supervisor).note .begun⟩
  | .start key =>
    match s.net.start (s.setup.settings.options key) with
    | (net, .error cause) =>
      ⟨m.first, .conclude (some (.sessionStart cause)), { s with net := net }⟩
    | (net, .ok id) => ⟨m.first, .equip id, ({ s with net := net } : Supervisor).note (.started id)⟩
  | .equip id => ⟨m.first, .listen id, { s with net := s.net.setFallback id .relay }⟩
  | .listen id =>
    match s.net.listen id s.setup.settings.livenessPort with
    | (net, .error cause) => ⟨m.first, .discard id cause, { s with net := net }⟩
    | (net, .ok _) =>
      ⟨m.first, .hold id,
        (({ s with net := net } : Supervisor).tell (establishedEntry s.setup.settings)).tell
          (Liveness.servingEntry s.setup.settings.livenessPort)⟩
  | .discard id cause =>
    ⟨m.first, .conclude (some (.liveness cause)),
      ({ s with net := (s.net.close id).1 } : Supervisor).note (.closed id)⟩
  | .hold id =>
    ⟨m.first, .publish id, { s with generation := s.generation + 1, current := some id }⟩
  | .publish id => ⟨m.first, .confirm, s.publishSlot (some ⟨s.generation, id⟩)⟩
  | .confirm => ⟨m.first, .conclude none, s.publish .connected⟩
  | .conclude e =>
    match m.first, e with
    | false, e => ⟨false, .rearm, s.conclude e⟩
    | true, none => ⟨false, .wait, s.enter⟩
    | true, some _ =>
      ⟨false, .wait, { (s.note .failed).publish .disconnected with phase := .stopped }⟩
  | .rearm =>
    match s.setup.firstCheck? s.now with
    | some deadline => ⟨m.first, .rest, { s with phase := .watching deadline }⟩
    | none => ⟨m.first, .wait, { s with phase := .crashed }⟩
  | .rest =>
    if s.isCalled then
      ⟨m.first, .fall,
        (({ s with pending := false } : Supervisor).note .requested).tell
          ⟨.info, .supervisor, "Reconnect requested", [s.generationField]⟩⟩
    else ⟨m.first, .wait, s⟩

/-- The end of a wait: a check is due, or the pursuit of a key goes on. -/
def wake (m : Moment) : Moment :=
  let s := m.supervisor
  match s.phase with
  | .watching deadline => ⟨m.first, .check deadline, { s with now := deadline.ticks }⟩
  | .building p =>
    let acted := p.act s.source s.setup.retry
    let s := { s with source := acted.1, now := p.due, log := acted.2.2.reverse ++ s.log }
    match acted.2.1 with
    | .pursuing p => ⟨m.first, .wait, { s with phase := .building p }⟩
    | .got key => ⟨m.first, .start key, s⟩
  | .crashed | .stopped => m

/-- The faults that a network will show are changed. -/
def refault (net : Network) (health : List HealthOutcome) (startFailures : Nat)
    (failListen : Bool) : Network :=
  { net with health := health, startFailures := startFailures, failListen := failListen }

/-- What can come right behind a moment, by the supervisor's own actions, by time, or from
outside. -/
inductive Next : Moment → Moment → Prop
  | work (m : Moment) : Next m m.work
  /-- The check that the supervisor waits for is due. -/
  | check {first : Bool} {s : Supervisor} {due : Time.Span} (hp : s.phase = .watching due) :
      Next ⟨first, .wait, s⟩ ⟨first, .check due, { s with now := due.ticks }⟩
  /-- The pursuit of a key goes on. -/
  | pursue {first : Bool} {s : Supervisor} {p p' : Pursuit} {source : Source} {log : List Entry}
      (hp : s.phase = .building p)
      (ha : p.act s.source s.setup.retry = (source, .pursuing p', log)) :
      Next ⟨first, .wait, s⟩ ⟨first, .wait, { s with
        source := source, phase := .building p', now := p.due, log := log.reverse ++ s.log }⟩
  /-- The key that the supervisor waits for comes. -/
  | key {first : Bool} {s : Supervisor} {p : Pursuit} {key : Key} {source : Source}
      {log : List Entry} (hp : s.phase = .building p)
      (ha : p.act s.source s.setup.retry = (source, .got key, log)) :
      Next ⟨first, .wait, s⟩ ⟨first, .start key, { s with
        source := source, now := p.due, log := log.reverse ++ s.log }⟩
  /-- Nobody waits for the first key any longer. -/
  | abandon (s : Supervisor) (time : Nat) :
      Next ⟨true, .wait, s⟩ ⟨false, .wait, { s with phase := .stopped, now := time }⟩
  /-- Time passes in which nothing is due. -/
  | pass {s : Supervisor} {time : Nat} (hnow : s.now ≤ time)
      (hdue : ∀ due, s.due? = some due → time < due) :
      Next ⟨false, .wait, s⟩ ⟨false, .wait, { s with now := time }⟩
  | request {s : Supervisor} (times : Nat) (hs : s.isStopped = false) :
      Next ⟨false, .wait, s⟩ ⟨false, .rest, s.ask times⟩
  | refault (s : Supervisor) (health : List HealthOutcome) (startFailures : Nat)
      (failListen : Bool) :
      Next ⟨false, .wait, s⟩
        ⟨false, .wait, s.onNet (Moment.refault · health startFailures failListen)⟩
  | close (s : Supervisor) (session : Nat) :
      Next ⟨false, .wait, s⟩ ⟨false, .wait, (s.closeOutside session).1⟩
  | shutdown {s : Supervisor} (hs : s.isStopped = false) :
      Next ⟨false, .wait, s⟩ ⟨false, .wait, s.stop⟩

/-- One moment comes behind another, at once or later. -/
def Reaches : Moment → Moment → Prop := Relation.ReflTransGen Next

namespace Reaches

variable {m₀ m m' : Moment} {s : Supervisor}

theorem refl : Reaches m m := Relation.ReflTransGen.refl

theorem next (h : Reaches m₀ m) (hn : Next m m') : Reaches m₀ m' := h.tail hn

/-- What holds at first, and is kept by whatever comes behind a moment, holds of all moments within
reach. -/
theorem keeps {P : Moment → Prop}
    (hkeep : ∀ {m m'}, Reaches m₀ m → Next m m' → P m → P m') (h₀ : P m₀) (h : Reaches m₀ m) :
    P m := by
  induction h with
  | refl => exact h₀
  | tail hr hn ih => exact hkeep hr hn ih

theorem work (h : Reaches m₀ m) : Reaches m₀ m.work := h.next (.work m)

theorem wake (h : Reaches m₀ m) (hw : m.duty = .wait) : Reaches m₀ m.wake := by
  obtain ⟨first, duty, s⟩ := m
  cases hw
  cases hp : s.phase with
  | watching due =>
    have hn := h.next (.check hp)
    simpa only [Moment.wake, hp] using hn
  | building p =>
    rcases ha : p.act s.source s.setup.retry with ⟨source, p' | key, log⟩
    · have hn := h.next (.pursue hp ha)
      simpa only [Moment.wake, hp, ha] using hn
    · have hn := h.next (.key hp ha)
      simpa only [Moment.wake, hp, ha] using hn
  | crashed => simpa only [Moment.wake, hp] using h
  | stopped => simpa only [Moment.wake, hp] using h

end Reaches

/-! ## What goes on record -/

/-- A supervisor has put some events on record, the newest first, while no time has passed. -/
structure Records (s : Supervisor) (events : List Event) (s' : Supervisor) : Prop where
  now : s'.now = s.now
  setup : s'.setup = s.setup
  history : s'.history = events.map (s.now, ·) ++ s.history

theorem records_enter (s : Supervisor) : Records s [] s.enter := by
  unfold Supervisor.enter
  dsimp only
  split <;> exact ⟨rfl, rfl, rfl⟩

theorem records_conclude (first : Bool) (e : Option Error) (s : Supervisor) :
    ∃ events, Records s events (work ⟨first, .conclude e, s⟩).supervisor ∧
      ∀ passed, .checked passed ∉ events := by
  cases first with
  | false =>
    cases e with
    | none => exact ⟨[], ⟨rfl, rfl, rfl⟩, by simp⟩
    | some e => exact ⟨[.state .unhealthy, .failed], ⟨rfl, rfl, rfl⟩, by simp⟩
  | true =>
    cases e with
    | none => exact ⟨[], records_enter s, by simp⟩
    | some e => exact ⟨[.state .disconnected, .failed], ⟨rfl, rfl, rfl⟩, by simp⟩

/-- An atomic action puts its events on record, and none but a check puts a check there. -/
theorem records_work (m : Moment) :
    ∃ events, Records m.supervisor events m.work.supervisor ∧
      ∀ passed, .checked passed ∈ events →
        events = [.checked passed] ∧ ∃ due, m.duty = .check due := by
  obtain ⟨first, duty, s⟩ := m
  cases duty with
  | check due =>
    refine ⟨[.checked (checkHealth s.net s.current).2.isOk], ⟨rfl, rfl, rfl⟩, fun passed h => ?_⟩
    rw [List.mem_singleton] at h
    exact ⟨by rw [h], due, rfl⟩
  | withdraw =>
    simp only [work]
    split
    · exact ⟨[], ⟨rfl, rfl, rfl⟩, by simp⟩
    · exact ⟨[.slot none], ⟨rfl, rfl, rfl⟩, by simp⟩
  | start key =>
    simp only [work]
    split
    · exact ⟨[], ⟨rfl, rfl, rfl⟩, by simp⟩
    · exact ⟨[.started _], ⟨rfl, rfl, rfl⟩, by simp⟩
  | listen id =>
    simp only [work]
    split <;> exact ⟨[], ⟨rfl, rfl, rfl⟩, by simp⟩
  | conclude e =>
    obtain ⟨events, hr, hn⟩ := records_conclude first e s
    exact ⟨events, hr, fun passed h => absurd h (hn passed)⟩
  | rearm =>
    simp only [work]
    split <;> exact ⟨[], ⟨rfl, rfl, rfl⟩, by simp⟩
  | rest =>
    simp only [work]
    split
    · exact ⟨[.requested], ⟨rfl, rfl, rfl⟩, by simp⟩
    · exact ⟨[], ⟨rfl, rfl, rfl⟩, by simp⟩
  | wait | equip _ | hold _ => exact ⟨[], ⟨rfl, rfl, rfl⟩, by simp⟩
  | pass _ | fall | close _ | announce | ask | discard _ _ | publish _ | confirm =>
    exact ⟨[_], ⟨rfl, rfl, rfl⟩, by simp⟩

/-! ## Between two atomic actions -/

/-- One moment comes behind another with no atomic action between them: nothing but closes goes on
record. -/
structure Idles (m m' : Moment) : Prop where
  duty : m.duty = .wait
  opens : m'.duty.opens = true
  generation : m'.supervisor.generation = m.supervisor.generation
  history : ∃ closes, m'.supervisor.history = closes ++ m.supervisor.history ∧
    ∀ e ∈ closes, ∃ id, e.2 = .closed id ∨ e.2 = .closedOutside id

theorem idles_stop (s : Supervisor) : Idles ⟨false, .wait, s⟩ ⟨false, .wait, s.stop⟩ := by
  unfold Supervisor.stop
  dsimp only
  split
  · exact ⟨rfl, rfl, rfl, [], rfl, by simp⟩
  · exact ⟨rfl, rfl, rfl, [_], rfl, by simp⟩

/-- Whatever comes behind a moment is an atomic action, or comes while the supervisor waits. -/
theorem Next.quiet {m m' : Moment} (h : Next m m') : m' = m.work ∨ Idles m m' := by
  cases h with
  | work => exact Or.inl rfl
  | request times hs =>
    obtain ⟨pending, log, he⟩ := Supervisor.ask_eq _ times
    rw [he]
    exact Or.inr ⟨rfl, rfl, rfl, [], rfl, by simp⟩
  | close s session => exact Or.inr ⟨rfl, rfl, rfl, [(s.now, .closedOutside session)], rfl, by simp⟩
  | shutdown hs => exact Or.inr (idles_stop _)
  | check | pursue | key | abandon | pass | refault =>
    exact Or.inr ⟨rfl, rfl, rfl, [], rfl, by simp⟩

/-- An event that is no close comes on record by atomic actions only. -/
theorem Idles.countP_eq {m m' : Moment} (h : Idles m m') {p : Event → Bool}
    (hp : ∀ id, p (.closed id) = false ∧ p (.closedOutside id) = false) :
    m'.supervisor.history.countP (p ·.2) = m.supervisor.history.countP (p ·.2) := by
  obtain ⟨closes, hh, hc⟩ := h.history
  have hnone : closes.countP (p ·.2) = 0 := by
    rw [List.countP_eq_zero]
    intro e he
    obtain ⟨id, hid | hid⟩ := hc e he
    · simp [hid, hp]
    · simp [hid, hp]
  rw [hh, List.countP_append, hnone, Nat.zero_add]

/-! ## Rows of atomic actions -/

/-- A row of atomic actions leads from one moment to another. -/
def Leads : Moment → Moment → Prop := Relation.ReflTransGen fun m m' => m' = m.work

namespace Leads

theorem refl (m : Moment) : Leads m m := Relation.ReflTransGen.refl

theorem trans {m₁ m₂ m₃ : Moment} (h : Leads m₁ m₂) (h' : Leads m₂ m₃) : Leads m₁ m₃ :=
  Relation.ReflTransGen.trans h h'

theorem step {m m' : Moment} (h : Leads m.work m') : Leads m m' := Relation.ReflTransGen.head rfl h

end Leads

theorem Reaches.leads {m₀ m m' : Moment} (h : Reaches m₀ m) (hl : Leads m m') : Reaches m₀ m' := by
  induction hl with
  | refl => exact h
  | tail _ hw ih => subst hw; exact ih.work

theorem withdraw_leads (first : Bool) (s : Supervisor) :
    Leads ⟨first, .withdraw, s⟩ ⟨first, .announce, s.withdraw⟩ := by
  refine Leads.step ?_
  unfold Supervisor.withdraw
  simp only [work]
  cases h : s.current with
  | none => exact Leads.refl _
  | some id => exact Leads.step (Leads.refl _)

/-- What `reconnect` does, action by action. -/
theorem fall_leads (first : Bool) (s : Supervisor) :
    Leads ⟨first, .fall, s⟩ ⟨first, .wait, s.reconnect⟩ := by
  refine Leads.step ((withdraw_leads first _).trans ?_)
  exact Leads.step (Leads.step (Leads.refl _))

/-- What `rest` does, action by action. -/
theorem rest_leads (first : Bool) (s : Supervisor) :
    Leads ⟨first, .rest, s⟩ ⟨first, .wait, s.rest⟩ := by
  refine Leads.step ?_
  unfold Supervisor.rest
  simp only [work]
  split
  · exact fall_leads first _
  · exact Leads.refl _

/-- What `rearm` does, action by action. -/
theorem rearm_leads (first : Bool) (s : Supervisor) :
    Leads ⟨first, .rearm, s⟩ ⟨first, .wait, s.rearm⟩ := by
  refine Leads.step ?_
  simp only [work, Supervisor.rearm]
  cases s.setup.firstCheck? s.now with
  | some deadline => exact rest_leads first _
  | none => exact Leads.refl _

/-- What `finishBuild` does, action by action. -/
theorem start_leads (first : Bool) (s : Supervisor) (key : Key) :
    Leads ⟨first, .start key, s⟩
      ⟨first, .conclude (s.finishBuild key).2, (s.finishBuild key).1⟩ := by
  refine Leads.step ?_
  unfold Supervisor.finishBuild build
  simp only [work]
  generalize s.net.start (s.setup.settings.options key) = started
  obtain ⟨net, cause | id⟩ := started
  · exact Leads.refl _
  · refine Leads.step (Leads.step ?_)
    simp only [work, Supervisor.note]
    generalize (net.setFallback id .relay).listen id s.setup.settings.livenessPort = heard
    obtain ⟨net', cause | listener⟩ := heard
    · exact Leads.step (Leads.refl _)
    · exact Leads.step (Leads.step (Leads.step (Leads.refl _)))

/-- What `rebuild` does, action by action. -/
theorem rebuild_leads (s : Supervisor) (key : Key) :
    Leads ⟨false, .start key, s⟩ ⟨false, .wait, s.rebuild key⟩ :=
  (start_leads false s key).trans (Leads.step (rearm_leads false _))

/-- What `check` does, action by action. -/
theorem check_leads (first : Bool) (s : Supervisor) (deadline : Time.Span) :
    Leads ⟨first, .check deadline, s⟩ ⟨first, .wait, s.check deadline⟩ := by
  refine Leads.step ?_
  unfold Supervisor.check
  simp only [work]
  split
  · exact Leads.step (Leads.refl _)
  · exact fall_leads first _

/-- One action of a supervisor is a wake and a row of atomic actions. -/
theorem Reaches.act {m₀ : Moment} {s : Supervisor} (h : Reaches m₀ ⟨false, .wait, s⟩) :
    Reaches m₀ ⟨false, .wait, s.act⟩ := by
  have hw := h.wake rfl
  cases hp : s.phase with
  | watching due =>
    simp only [Moment.wake, hp] at hw
    simp only [Supervisor.act, hp]
    exact hw.leads (check_leads false _ due)
  | building p =>
    simp only [Moment.wake, hp] at hw
    simp only [Supervisor.act, hp]
    split at hw
    · rename_i p' ha
      simpa only [ha] using hw
    · rename_i key ha
      simpa only [ha] using hw.leads (rebuild_leads _ key)
  | crashed => simpa only [Supervisor.act, hp] using h
  | stopped => simpa only [Supervisor.act, hp] using h

/-- Acting up to a time stays within reach. -/
theorem Reaches.runTo {m₀ : Moment} {s : Supervisor} (limit : Nat)
    (h : Reaches m₀ ⟨false, .wait, s⟩) : Reaches m₀ ⟨false, .wait, s.runTo limit⟩ := by
  fun_induction Supervisor.runTo s limit with
  | case1 s hd => exact h
  | case2 s due hd hle ih => exact ih h.act
  | case3 s due hd hle => exact h

end Moment

end Tether.Agent
