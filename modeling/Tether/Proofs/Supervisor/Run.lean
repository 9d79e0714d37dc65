import Tether.Agent.Handle
import Tether.Proofs.Openness

/-!
Runs of a supervisor on the network in memory. A launch fixes what is scripted beforehand: the
health outcomes, the starts that fail, whether listening fails, and the answers of the key source.
Behind the start a run is any list of steps, each taken when everything waits: time passes, another
session is asked for, the faults to come are changed, someone else closes a session, or the
supervisor is shut down.
-/

namespace Tether.Agent

open Tether.Control Tether.Overlay Tether.Sim

/-- How a supervisor is launched, and until when its start is waited for. -/
structure Launch where
  setup : Setup
  health : List HealthOutcome := []
  startFailures : Nat := 0
  failListen : Bool := false
  replies : List Reply := []
  now : Nat := 0
  deadline : Nat := 600000

/-- The network of a launch: no session yet, and the scripted faults. -/
def Launch.net (l : Launch) : Network where
  health := l.health
  startFailures := l.startFailures
  failListen := l.failListen

/-- The supervisor behind its start, and what the start came to. -/
def Launch.start (l : Launch) : Supervisor × Started :=
  Supervisor.start l.setup l.net (.ofScript l.replies) l.now l.deadline

/-- A supervisor that has its first key comes up if its network shows no fault. -/
theorem comeUp_running {s : Supervisor} (hs : s.net.startFailures = 0)
    (hl : s.net.failListen = false) (key : Key) : (s.comeUp key).2 = .running := by
  obtain ⟨net, listener, hb, -⟩ := Network.build_ready hs hl s.setup.settings key
  unfold Supervisor.comeUp Supervisor.finishBuild
  rw [hb]
  rfl

/-- A launch comes up if its first key comes in time and its network shows no fault. -/
theorem start_running {l : Launch} {key : Key}
    (hr : (Source.ofScript l.replies).result 1 = .ok key)
    (hd : l.now + ((Source.ofScript l.replies).reply 1).delay ≤ l.deadline)
    (hs : l.startFailures = 0) (hl : l.failListen = false) : l.start.2 = .running := by
  unfold Launch.start Supervisor.start
  dsimp only
  rw [Source.obtain_of_result (s := .ofScript l.replies) hr hd]
  exact comeUp_running hs hl key

/-- A launch with nothing scripted. -/
def Launch.plain : Launch where
  setup := ⟨⟨"node", "https://control", "/state", 9⟩, .ofSeconds 5, .ofSeconds 5⟩

theorem running_plain : Launch.plain.start.2 = .running :=
  start_running rfl (Nat.zero_le _) rfl rfl

/-- What can happen to a supervisor while it waits. -/
inductive Step
  /-- So many milliseconds pass. -/
  | advance (time : Nat)
  /-- Another session is asked for, so many times in a row. -/
  | reconnect (times : Nat)
  | scriptHealth (outcomes : List HealthOutcome)
  | failNextStarts (count : Nat)
  | failListen (fail : Bool)
  /-- Someone else closes the session of a number. -/
  | close (session : Nat)
  | shutdown
  deriving DecidableEq, Repr

namespace Supervisor

/-- The supervisor never came up, or was shut down: nobody has a handle to it. -/
def isStopped (s : Supervisor) : Bool :=
  match s.phase with
  | .stopped => true
  | _ => false

/-- Asks for another session so many times, before the supervisor gets to act. -/
def ask (s : Supervisor) (times : Nat) : Supervisor := times.fold (fun _ _ s => s.request) s

/-- Asking for another session changes what waits, and nothing else that shows. -/
theorem ask_eq (s : Supervisor) (times : Nat) :
    ∃ pending log, s.ask times = { s with pending := pending, log := log } := by
  unfold ask
  induction times with
  | zero => exact ⟨s.pending, s.log, rfl⟩
  | succ n ih =>
    rw [Nat.fold_succ]
    obtain ⟨pending, log, h⟩ := ih
    rw [h]
    unfold request
    split
    · exact ⟨pending, _, rfl⟩
    · exact ⟨true, log, rfl⟩

theorem isCalled_iff {s : Supervisor} :
    s.isCalled = true ↔ (∃ due, s.phase = .watching due) ∧ s.pending = true := by
  unfold isCalled
  cases s.phase <;> simp

/-- Without a request that waits, to set the timer changes only what the supervisor waits for. -/
theorem rearm_idle {s : Supervisor} (h : s.pending = false) :
    ∃ phase, s.rearm = { s with phase := phase } := by
  unfold rearm
  split
  · rw [rest_watching rfl, if_neg (by simp [h])]
    exact ⟨_, rfl⟩
  · exact ⟨_, rfl⟩

/-- A supervisor that can take the request that waits does so at once. -/
theorem react_eq (s : Supervisor) :
    s.react = if s.isCalled then s.takeRequest.runTo s.now else s := by
  unfold react isCalled
  cases s.phase <;> rfl

/-! ## What an action is -/

variable {s : Supervisor} {p : Pursuit}

theorem act_watching {deadline : Time.Span} (h : s.phase = .watching deadline) :
    s.act = check { s with now := deadline.ticks } deadline := by
  simp only [act, h]

/-- A rest is over: the source is asked again. -/
theorem act_resting (h : s.phase = .building p) (hp : p.stage = .resting) :
    s.act = { s with
      source := (s.source.ask p.due (p.attempt + 1)).1, now := p.due
      phase := .building (s.source.ask p.due (p.attempt + 1)).2 } := by
  simp [act, h, Pursuit.act, hp]

/-- A call brings an error: the pursuit rests. -/
theorem act_error {e : Control.Error} (h : s.phase = .building p)
    (hp : p.stage = .asking (.error e)) :
    s.act = { s with
      now := p.due
      phase := .building { p with due := p.due + s.setup.retry.ticks, stage := .resting }
      log := Pursuit.failedEntry p.attempt s.setup.retry e :: s.log } := by
  simp [act, h, Pursuit.act, hp]

/-- A call brings a key: the session is built. -/
theorem act_key {key : Key} (h : s.phase = .building p) (hp : p.stage = .asking (.ok key)) :
    ∃ log, s.act = rebuild { s with now := p.due, log := log } key := by
  refine ⟨(if 1 < p.attempt then [Pursuit.gotEntry p.attempt] else []) ++ s.log, ?_⟩
  simp only [act, h, Pursuit.act, hp]
  split <;> rfl

/-! ## Up to a time -/

theorem runTo_idle {limit : Nat} (h : s.due? = none) : s.runTo limit = s := by
  rw [runTo]
  split
  · rfl
  · rename_i due hd
    rw [h] at hd
    cases hd

/-- What is due by a time is done first. -/
theorem runTo_due {due limit : Nat} (h : s.due? = some due) (hl : due ≤ limit) :
    s.runTo limit = s.act.runTo limit := by
  rw [runTo]
  split
  · rename_i hn
    rw [h] at hn
    cases hn
  · rename_i d hd
    rw [h] at hd
    cases hd
    rw [if_pos hl]

theorem runTo_of_lt {due limit : Nat} (h : s.due? = some due) (hl : limit < due) :
    s.runTo limit = s := by
  rw [runTo]
  split
  · rfl
  · rename_i d hd
    rw [h] at hd
    cases hd
    rw [if_neg (by omega)]

/-! ## The end -/

theorem phase_stop (s : Supervisor) : s.stop.phase = .stopped := by
  unfold stop
  dsimp only
  split <;> rfl

/-- A supervisor that is stopped does not act any more. -/
theorem runTo_stopped {s : Supervisor} (h : s.phase = .stopped) (limit : Nat) :
    s.runTo limit = s := by
  refine runTo_idle ?_
  unfold due?
  rw [h]

/-! ## Steps -/

/-- A step, and all that the supervisor does because of it. -/
def perform (s : Supervisor) : Step → Supervisor
  | .advance time => s.advance time
  | .reconnect times => if s.isStopped then s else s.requestTimes times
  | .scriptHealth outcomes => s.onNet (·.scriptHealth outcomes)
  | .failNextStarts count => s.onNet (·.failNextStarts count)
  | .failListen fail => s.onNet (·.setFailListen fail)
  | .close session => (s.closeOutside session).1
  | .shutdown => if s.isStopped then s else s.stop

end Supervisor

/-- The supervisor behind its start and some steps. -/
def Launch.run (l : Launch) (steps : List Step) : Supervisor :=
  steps.foldl Supervisor.perform l.start.1

@[simp] theorem run_nil (l : Launch) : l.run [] = l.start.1 := rfl

theorem run_append (l : Launch) (steps more : List Step) :
    l.run (steps ++ more) = more.foldl Supervisor.perform (l.run steps) := by
  simp [Launch.run, List.foldl_append]

theorem run_concat (l : Launch) (steps : List Step) (x : Step) :
    l.run (steps ++ [x]) = (l.run steps).perform x := run_append l steps [x]

end Tether.Agent
