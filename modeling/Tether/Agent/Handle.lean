import Tether.Agent.Config
import Tether.Agent.Supervisor

/-!
Starting a supervisor, and what its holder can do with it: watch what it publishes, ask for another
session, wait for it, and stop it. A supervisor runs as a task of its own. The task ends only when
it crashes or is stopped; its end is reported once, and whoever waits for it after that crashes too.
-/

namespace Tether.Agent

open Tether.Control Tether.Overlay Tether.Sim

/-- What a start came to. -/
inductive Started
  | running
  | failed (e : Error)
  /-- There was no key in time. -/
  | abandoned
  deriving DecidableEq, Repr

namespace Supervisor

/-- A supervisor that has done nothing yet. -/
def fresh (setup : Setup) (net : Network) (source : Source) (now : Nat) : Supervisor where
  setup := setup
  net := net
  source := source
  state := .disconnected
  slot := none
  generation := 0
  current := none
  pending := false
  phase := .stopped
  now := now
  history := []
  log := []

/-- What the log says when a supervisor begins its work. -/
def supervisingEntry (setup : Setup) : Entry :=
  ⟨.info, .supervisor, "Supervising overlay session",
    [("health_interval_secs", setup.interval.secondsText)]⟩

/-- Goes to work behind the first build. -/
def enter (s : Supervisor) : Supervisor :=
  let s := s.tell (supervisingEntry s.setup)
  match s.setup.firstCheck? s.now with
  | some deadline => { s with phase := .watching deadline }
  | none => { s with phase := .crashed }

/-- Builds the first session with its key, and goes to work if that succeeds. -/
def comeUp (s : Supervisor) (key : Key) : Supervisor × Started :=
  match s.finishBuild key with
  | (s, some e) => ((s.note .failed).publish .disconnected, .failed e)
  | (s, none) => (s.enter, .running)

/-- Waits for the first key, and goes to work with it if it comes before a time. -/
def start (setup : Setup) (net : Network) (source : Source) (now deadline : Nat) :
    Supervisor × Started :=
  let s := ((fresh setup net source now).publish .connecting).note .begun
  let run := source.obtain setup.retry now deadline
  let s := { s with source := run.source, now := run.now, log := run.log.reverse ++ s.log }
  match run.progress with
  | .pursuing _ => (s, .abandoned)
  | .got key => s.comeUp key

/-- The supervisor's task is at work. -/
def isAlive (s : Supervisor) : Bool :=
  match s.phase with
  | .watching _ | .building _ => true
  | .crashed | .stopped => false

/-- Asks for another session; a request that already waits stands for this one too. -/
def request (s : Supervisor) : Supervisor :=
  if s.pending || !s.isAlive then s.tell ⟨.debug, .supervisor, "Reconnect already pending", []⟩
  else { s with pending := true }

/-- A supervisor that waits for a check takes the request that waits for it. -/
def react (s : Supervisor) : Supervisor :=
  match s.phase with
  | .watching _ => if s.pending then s.takeRequest.runTo s.now else s
  | _ => s

/-- Asks for another session so many times in a row. -/
def requestTimes (s : Supervisor) (times : Nat) : Supervisor :=
  (times.fold (fun _ _ s => s.request) s).react

/-- Lets time pass. -/
def advance (s : Supervisor) (time : Nat) : Supervisor :=
  { s.runTo (s.now + time) with now := s.now + time }

/-- Someone else closes a session. -/
def closeOutside (s : Supervisor) (id : Nat) : Supervisor × Except Overlay.Error Unit :=
  let r := (s.net.close id).2
  (({ s with
      net := (s.net.close id).1
      log := (if r.isOk then s.stoppedEntries id else []) ++ s.log } : Supervisor).note
        (.closedOutside id), r)

/-- Changes the faults that the network will show. -/
def onNet (s : Supervisor) (f : Network → Network) : Supervisor := { s with net := f s.net }

/-- What the log says about a session that could not be closed at the end. -/
def lastCloseFailedEntry (e : Overlay.Error) : Entry :=
  ⟨.warn, .supervisor, "Failed to close overlay session on shutdown", [("error", e.message)]⟩

/-- Stops the supervisor and closes the session in its slot. -/
def stop (s : Supervisor) : Supervisor :=
  let s := { s with phase := .stopped }
  match s.slot with
  | none => s
  | some slot => s.closeSession slot.session (.closed slot.session) lastCloseFailedEntry

end Supervisor

/-- What the holder of a supervisor has: the supervisor, and whether the end of its task was
reported already. -/
structure Handle where
  supervisor : Supervisor
  reported : Bool := false

namespace Handle

/-- What a wait for the task comes to. -/
inductive Waited
  | running
  | crashed
  deriving DecidableEq, Repr

/-- Waits for the task, so many milliseconds long; waiting again for an end that was reported
crashes. -/
def wait (h : Handle) (time : Nat) : Option (Handle × Waited) :=
  match h.supervisor.phase with
  | .crashed => if h.reported then none else some ({ h with reported := true }, .crashed)
  | _ => some ({ h with supervisor := h.supervisor.advance time }, .running)

/-- Stops the supervisor and closes the session in its slot. Stopping waits for the task, and so
crashes where waiting does. -/
def shutdown (h : Handle) : Option Supervisor :=
  match h.supervisor.phase with
  | .crashed => if h.reported then none else some h.supervisor.stop
  | _ => some h.supervisor.stop

end Handle

/-! ## What a subscriber is told -/

/-- Of several values at one time only the last is told. -/
def lastOfEachTime {α : Type} : List (Nat × α) → List (Nat × α)
  | [] => []
  | [x] => [x]
  | x :: y :: rest =>
    if x.1 = y.1 then lastOfEachTime (y :: rest) else x :: lastOfEachTime (y :: rest)

/-- The states that were published behind the first so many events. -/
def Supervisor.statesSince (s : Supervisor) (events : Nat) : List (Nat × State) :=
  lastOfEachTime ((s.history.reverse.drop events).filterMap fun e =>
    match e.2 with
    | .state x => some (e.1, x)
    | _ => none)

/-- The slots that were published behind the first so many events. -/
def Supervisor.slotsSince (s : Supervisor) (events : Nat) : List (Nat × Option Slot) :=
  lastOfEachTime ((s.history.reverse.drop events).filterMap fun e =>
    match e.2 with
    | .slot x => some (e.1, x)
    | _ => none)

/-! ## The agent -/

/-- What the agent builds its sessions from. -/
def Config.settings (c : Config) : Settings where
  hostname := c.hostname
  controlUrl := c.controlUrl
  stateDir := c.stateDir
  livenessPort := c.livenessPort

/-- What the agent sets its supervisor up with. -/
def Config.setup (c : Config) : Setup := ⟨c.settings, c.keyRetry, c.healthInterval⟩

/-- What the log says when the agent starts. -/
def startingEntry (c : Config) : Entry :=
  ⟨.info, .agent, "Starting agent", [
    ("hostname", c.hostname), ("control_url", c.controlUrl), ("state_dir", c.stateDir)]⟩

end Tether.Agent
