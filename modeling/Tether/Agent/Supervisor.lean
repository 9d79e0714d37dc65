import Tether.Agent.Factory
import Tether.Agent.Health
import Tether.Agent.Liveness
import Tether.Control.Source

/-!
The supervisor. It holds the one session in service, checks its health at fixed intervals, and
replaces it when a check fails or when it is asked to: it withdraws the session, closes it, and
builds another with a fresh key, however long the key takes. Between two actions it waits for a
time, and that time is all that its progress depends on, so a run is a sequence of actions, each at
the time it was due. The clock runs on whole milliseconds; the schedule of the checks is finer, and
a check is due in the millisecond that reaches its time.

What others can observe is the published state and the published slot, which holds the session in
service under a number that grows with every session installed. Every action is on record, newest
first, with the time at which it happened.
-/

namespace Tether.Agent

open Tether.Control Tether.Overlay Tether.Sim

/-- The state that the supervisor publishes. -/
inductive State
  /-- No session was ever built. -/
  | disconnected
  /-- A session is being built. -/
  | connecting
  /-- The session in service passed its last check, or was just built. -/
  | connected
  /-- The last check or the last build failed. -/
  | unhealthy
  deriving DecidableEq, Repr

/-- The name of a state. -/
def State.text : State → String
  | .disconnected => "disconnected"
  | .connecting => "connecting"
  | .connected => "connected"
  | .unhealthy => "unhealthy"

/-- The name of a state for diagnostics. -/
def State.debugText : State → String
  | .disconnected => "Disconnected"
  | .connecting => "Connecting"
  | .connected => "Connected"
  | .unhealthy => "Unhealthy"

/-- A session in service, and its place in the order of the sessions installed. -/
structure Slot where
  generation : Nat
  session : Nat
  deriving DecidableEq, Repr

/-- What is put on record. -/
inductive Event
  /-- A state was published. -/
  | state (state : State)
  /-- A slot was published. -/
  | slot (slot : Option Slot)
  /-- A session was started. -/
  | started (session : Nat)
  /-- The supervisor closed a session. -/
  | closed (session : Nat)
  /-- Someone else closed a session. -/
  | closedOutside (session : Nat)
  /-- A check was made; it passed or failed. -/
  | checked (passed : Bool)
  /-- A request for another session was taken. -/
  | requested
  /-- A build was begun. -/
  | begun
  /-- A build failed. -/
  | failed
  deriving DecidableEq, Repr

/-- What a supervisor is set up with. -/
structure Setup where
  settings : Settings
  retry : Time.Span
  interval : Time.Span
  deriving DecidableEq, Repr

/-- The time from one check to the next; it has some length. -/
def Setup.period (s : Setup) : Time.Span := ⟨max 1 s.interval.nanos⟩

/-- The clock holds this many seconds. -/
def clockSeconds : Nat := Nat.pow 2 63

/-- The time of the first check behind a start or a replacement, unless the timer cannot be set: the
interval is zero, or the clock does not reach that far. -/
def Setup.firstCheck? (s : Setup) (now : Nat) : Option Time.Span :=
  if s.interval.isZero then none
  else if clockSeconds ≤ (now * 1000000 + s.interval.nanos) / 1000000000 then none
  else some (Time.Span.ofMillis now + s.period)

/-- What a supervisor is waiting for. -/
inductive Phase
  /-- The time of the next check. -/
  | watching (deadline : Time.Span)
  /-- A key for the next session. -/
  | building (pursuit : Pursuit)
  /-- Nothing: it could not set its timer. -/
  | crashed
  /-- Nothing: it was stopped, or it never came up. -/
  | stopped

/-- A supervisor with all it acts on. -/
structure Supervisor where
  setup : Setup
  net : Network
  source : Source
  state : State
  slot : Option Slot
  generation : Nat
  /-- The session that the supervisor itself holds. -/
  current : Option Nat
  /-- A request for another session waits to be taken. -/
  pending : Bool
  phase : Phase
  now : Nat
  /-- What happened, newest first. -/
  history : List (Nat × Event)
  /-- What was logged, newest first. -/
  log : List Entry

namespace Supervisor

/-! ## Records -/

/-- Puts an event on record. -/
def note (s : Supervisor) (e : Event) : Supervisor := { s with history := (s.now, e) :: s.history }

/-- Writes an entry into the log. -/
def tell (s : Supervisor) (e : Entry) : Supervisor := { s with log := e :: s.log }

/-- Publishes a state. -/
def publish (s : Supervisor) (state : State) : Supervisor :=
  ({ s with state := state } : Supervisor).note (.state state)

/-- Publishes a slot. -/
def publishSlot (s : Supervisor) (slot : Option Slot) : Supervisor :=
  ({ s with slot := slot } : Supervisor).note (.slot slot)

/-- The field of an entry that names the generation. -/
def generationField (s : Supervisor) : String × String := ("generation", toString s.generation)

/-- The entries about the endpoint of a session that ends with it. -/
def stoppedEntries (s : Supervisor) (id : Nat) : List Entry :=
  if s.net.isOpen id && (s.net.session? id).any (·.isListening s.setup.settings.livenessPort) then
    [Liveness.stoppedEntry .closed]
  else []

/-- Closes a session; the entry is written if it was closed before. -/
def closeSession (s : Supervisor) (id : Nat) (e : Event) (entry : Overlay.Error → Entry) :
    Supervisor :=
  ({ s with
      net := (s.net.close id).1
      log := (match (s.net.close id).2 with
        | .ok () => s.stoppedEntries id
        | .error cause => [entry cause]) ++ s.log } : Supervisor).note e

/-! ## Building -/

/-- Puts a session into service. -/
def install (s : Supervisor) (session : Nat) : Supervisor :=
  let generation := s.generation + 1
  let s := { s with generation := generation, current := some session }
  (s.publishSlot (some ⟨generation, session⟩)).publish .connected

/-- Records what a build came to, and puts the session it left open into service. -/
def settleBuild (s : Supervisor) : Built → Supervisor
  | .notStarted _ => s
  | .halfBuilt id _ => (s.note (.started id)).note (.closed id)
  | .ready id _ =>
    (((s.note (.started id)).tell (establishedEntry s.setup.settings)).tell
      (Liveness.servingEntry s.setup.settings.livenessPort)).install id

/-- Builds a session from a key; the error of a build that failed comes back. -/
def finishBuild (s : Supervisor) (key : Key) : Supervisor × Option Error :=
  let built := Agent.build s.net s.setup.settings key
  (({ s with net := built.1 } : Supervisor).settleBuild built.2, built.2.error?)

/-- What the log says about a session that could not be closed. -/
def closeFailedEntry (e : Overlay.Error) : Entry :=
  ⟨.error, .supervisor, "Failed to close overlay session", [("error", e.message)]⟩

/-- Withdraws and closes the session in service, if there is one. -/
def withdraw (s : Supervisor) : Supervisor :=
  match s.current with
  | none => s
  | some id =>
    (({ s with current := none } : Supervisor).publishSlot none).closeSession id (.closed id)
      closeFailedEntry

/-- Begins to replace the session in service. -/
def reconnect (s : Supervisor) : Supervisor :=
  let s := ((s.publish .unhealthy).withdraw).publish .connecting
  let (source, pursuit) := s.source.ask s.now 1
  ({ s with source := source, phase := .building pursuit } : Supervisor).note .begun

/-- Takes the request that waits. -/
def takeRequest (s : Supervisor) : Supervisor :=
  let s := ({ s with pending := false } : Supervisor).note .requested
  (s.tell ⟨.info, .supervisor, "Reconnect requested", [s.generationField]⟩).reconnect

/-- A request waits, and nothing keeps the supervisor from taking it. -/
def isCalled (s : Supervisor) : Bool :=
  match s.phase with
  | .watching _ => s.pending
  | .building _ | .crashed | .stopped => false

/-- Takes the request that waits, if there is one. -/
def rest (s : Supervisor) : Supervisor := if s.isCalled then s.takeRequest else s

/-- Sets the timer anew behind a replacement. Where that fails the task crashes, and a request that
waits is never taken. -/
def rearm (s : Supervisor) : Supervisor :=
  match s.setup.firstCheck? s.now with
  | some deadline => rest { s with phase := .watching deadline }
  | none => { s with phase := .crashed }

/-- What the log says about the end of a replacement. -/
def rebuiltEntry (s : Supervisor) : Option Error → Entry
  | none => ⟨.info, .supervisor, "Reconnected to overlay network", [s.generationField]⟩
  | some e => ⟨.error, .supervisor, "Failed to rebuild overlay session", [("error", e.message)]⟩

/-- Reports what a replacement came to. -/
def conclude (s : Supervisor) (e : Option Error) : Supervisor :=
  let s := s.tell (s.rebuiltEntry e)
  if e.isSome then (s.note .failed).publish .unhealthy else s

/-- Ends a replacement with the key that it was waiting for. -/
def rebuild (s : Supervisor) (key : Key) : Supervisor :=
  ((s.finishBuild key).1.conclude (s.finishBuild key).2).rearm

/-! ## Acting -/

/-- What the log says about a check. -/
def checkedEntry (s : Supervisor) : Except HealthError Status → Entry
  | .ok status => ⟨.trace, .supervisor, "Health check passed",
      [("backend_state", status.backendState), s.generationField]⟩
  | .error e => ⟨.error, .supervisor, "Health check failed",
      [("error", e.message), s.generationField]⟩

/-- Makes the check that was due at a time. Behind one that passes the next is due a period after
that time, however late in its millisecond it was. -/
def check (s : Supervisor) (deadline : Time.Span) : Supervisor :=
  let checked := checkHealth s.net s.current
  let s := ({ s with net := checked.1 } : Supervisor).tell (s.checkedEntry checked.2)
  let s := s.note (.checked checked.2.isOk)
  if checked.2.isOk then
    { s.publish .connected with phase := .watching (deadline + s.setup.period) }
  else s.reconnect

/-- The time at which a supervisor acts next, if it does. -/
def due? (s : Supervisor) : Option Nat :=
  match s.phase with
  | .watching deadline => some deadline.ticks
  | .building p => some p.due
  | .crashed | .stopped => none

/-- Acts, at the time that is due. -/
def act (s : Supervisor) : Supervisor :=
  match s.phase with
  | .watching deadline => check { s with now := deadline.ticks } deadline
  | .building p =>
    let acted := p.act s.source s.setup.retry
    let s := { s with source := acted.1, now := p.due, log := acted.2.2.reverse ++ s.log }
    match acted.2.1 with
    | .pursuing p => { s with phase := .building p }
    | .got key => s.rebuild key
  | .crashed | .stopped => s

/-! ## Progress

An action either moves the time of the next one on, or takes the waiting request, or uses up an
answer of the key source, or brings the pursuit of a key nearer to its end, or moves the schedule of
the checks on within a millisecond. -/

/-- What orders two moments with the same time ahead: the request that waits, the answers still to
come, and the stage of the work at hand. -/
def standing (s : Supervisor) : Nat × Nat × Nat :=
  (if s.pending then 1 else 0, s.source.remaining,
    match s.phase with
    | .watching deadline => 3 + (deadline.ticks * 1000000 - deadline.nanos)
    | .building p => p.rank
    | .crashed | .stopped => 0)

/-- The order of standings. -/
def Below : Nat × Nat × Nat → Nat × Nat × Nat → Prop :=
  Prod.Lex (· < ·) (Prod.Lex (· < ·) (· < ·))

/-- A moment comes behind another that was due at a time: it is due later, or it is due no sooner
and stands lower. -/
def Follows (s' s : Supervisor) (due : Nat) : Prop :=
  ∀ due', s'.due? = some due' → due < due' ∨ due ≤ due' ∧ Below s'.standing s.standing

@[simp] theorem now_withdraw (s : Supervisor) : s.withdraw.now = s.now := by
  unfold withdraw; split <;> rfl

@[simp] theorem source_withdraw (s : Supervisor) : s.withdraw.source = s.source := by
  unfold withdraw; split <;> rfl

@[simp] theorem pending_withdraw (s : Supervisor) : s.withdraw.pending = s.pending := by
  unfold withdraw; split <;> rfl

@[simp] theorem phase_reconnect (s : Supervisor) :
    s.reconnect.phase = .building (s.source.ask s.now 1).2 := by
  simp [reconnect, publish, note]

@[simp] theorem source_reconnect (s : Supervisor) :
    s.reconnect.source = (s.source.ask s.now 1).1 := by
  simp [reconnect, publish, note]

@[simp] theorem pending_reconnect (s : Supervisor) : s.reconnect.pending = s.pending := by
  simp [reconnect, publish, note]

@[simp] theorem now_reconnect (s : Supervisor) : s.reconnect.now = s.now := by
  simp [reconnect, publish, note]

theorem due_reconnect {s : Supervisor} {due : Nat} (h : s.reconnect.due? = some due) :
    s.now ≤ due := by
  simp only [due?, phase_reconnect, Source.ask, Option.some.injEq] at h
  omega

@[simp] theorem now_finishBuild (s : Supervisor) (key : Key) :
    (s.finishBuild key).1.now = s.now := by
  unfold finishBuild settleBuild; dsimp only; split <;> rfl

@[simp] theorem pending_finishBuild (s : Supervisor) (key : Key) :
    (s.finishBuild key).1.pending = s.pending := by
  unfold finishBuild settleBuild; dsimp only; split <;> rfl

@[simp] theorem setup_finishBuild (s : Supervisor) (key : Key) :
    (s.finishBuild key).1.setup = s.setup := by
  unfold finishBuild settleBuild; dsimp only; split <;> rfl

theorem period_pos (s : Setup) : 0 < s.period.nanos := by unfold Setup.period; dsimp only; omega

/-- A period from now ends in a later millisecond. -/
theorem lt_ticks_period (now : Nat) (s : Setup) :
    now < (Time.Span.ofMillis now + s.period).ticks := by
  have hp := period_pos s
  have hn := Time.Span.nanos_le_ticks (Time.Span.ofMillis now + s.period)
  simp only [Time.Span.nanos_add, Time.Span.nanos_ofMillis] at hn
  omega

/-- A timer that can be set is set to a whole period. -/
theorem firstCheck_eq {setup : Setup} {now : Nat} {deadline : Time.Span}
    (h : setup.firstCheck? now = some deadline) :
    deadline = Time.Span.ofMillis now + setup.period := by
  unfold Setup.firstCheck? at h
  split at h
  · cases h
  · split at h
    · cases h
    · exact (Option.some.inj h).symm

/-- A supervisor that watches its session takes the request that waits. -/
theorem rest_watching {s : Supervisor} {deadline : Time.Span} (h : s.phase = .watching deadline) :
    s.rest = if s.pending then s.takeRequest else s := by
  simp only [rest, isCalled, h]

/-- Behind a replacement the supervisor waits a whole period, unless it takes the waiting request
or crashes. -/
theorem rearm_follows (s : Supervisor) :
    ∀ due, s.rearm.due? = some due →
      s.now < due ∨ s.now ≤ due ∧ s.pending = true ∧ s.rearm.pending = false := by
  intro due h
  cases hf : s.setup.firstCheck? s.now with
  | none =>
    simp only [rearm, hf, due?] at h
    cases h
  | some deadline =>
    let t : Supervisor := { s with phase := .watching deadline }
    have hr : s.rearm = if s.pending then t.takeRequest else t := by
      simp only [rearm, hf]
      exact rest_watching rfl
    rw [hr] at h ⊢
    cases hq : s.pending with
    | true =>
      right
      simp only [hq, if_true] at h ⊢
      refine ⟨?_, trivial, ?_⟩
      · have hnow := due_reconnect h
        simpa [tell, note, t] using hnow
      · simp [takeRequest, tell, note]
    | false =>
      left
      simp only [hq, Bool.false_eq_true, if_false, due?, t, Option.some.injEq] at h
      rw [← h, firstCheck_eq hf]
      exact lt_ticks_period s.now s.setup

@[simp] theorem now_conclude (s : Supervisor) (e : Option Error) : (s.conclude e).now = s.now := by
  unfold conclude; dsimp only; split <;> rfl

@[simp] theorem pending_conclude (s : Supervisor) (e : Option Error) :
    (s.conclude e).pending = s.pending := by
  unfold conclude; dsimp only; split <;> rfl

@[simp] theorem now_rest (s : Supervisor) : s.rest.now = s.now := by
  unfold rest
  split
  · simp [takeRequest, tell, note]
  · rfl

@[simp] theorem now_rearm (s : Supervisor) : s.rearm.now = s.now := by
  unfold rearm
  split
  · simp
  · rfl

@[simp] theorem now_check (s : Supervisor) (deadline : Time.Span) :
    (s.check deadline).now = s.now := by
  unfold check
  dsimp only
  split
  · rfl
  · simp [tell, note]

/-- An action happens when it is due. -/
theorem now_act {s : Supervisor} {due : Nat} (h : s.due? = some due) : s.act.now = due := by
  unfold due? at h
  unfold act
  cases hp : s.phase with
  | watching d =>
    simp only [hp, Option.some.injEq] at h
    simpa only [now_check] using h
  | building p =>
    simp only [hp, Option.some.injEq] at h
    dsimp only
    split
    · exact h
    · simpa [rebuild] using h
  | crashed => simp [hp] at h
  | stopped => simp [hp] at h

theorem check_follows (s : Supervisor) (deadline : Time.Span) (hd : s.phase = .watching deadline) :
    Follows (check { s with now := deadline.ticks } deadline) s deadline.ticks := by
  intro due' h
  unfold check at *
  dsimp only at *
  split at h
  · rename_i hc
    simp only [due?, tell, note, Option.some.injEq] at h
    have hp := period_pos s.setup
    have hle : deadline.ticks ≤ (deadline + s.setup.period).ticks :=
      Time.Span.ticks_mono (by simp only [Time.Span.nanos_add]; omega)
    have hn := Time.Span.nanos_le_ticks (deadline + s.setup.period)
    simp only [Time.Span.nanos_add] at hn
    by_cases hlt : deadline.ticks < due'
    · exact Or.inl hlt
    · -- the next check is due in the same millisecond, and nearer to its end
      right
      refine ⟨by omega, ?_⟩
      rw [if_pos hc]
      simp only [Below, standing, hd, tell, note, publish, Time.Span.nanos_add]
      refine Prod.Lex.right _ (Prod.Lex.right _ ?_)
      omega
  · rename_i hc
    right
    refine ⟨by simpa [tell, note] using due_reconnect h, ?_⟩
    rw [if_neg hc]
    simp only [Below, standing, pending_reconnect, source_reconnect, phase_reconnect, hd]
    apply Prod.Lex.right
    by_cases hr : s.source.calls < s.source.script.length
    · apply Prod.Lex.left
      simp only [tell, note, Source.ask, Source.remaining, Source.calls, List.length_append,
        List.length_singleton] at *
      omega
    · have h0 : (s.source.ask deadline.ticks 1).1.remaining = s.source.remaining := by
        simp only [Source.ask, Source.remaining, Source.calls, List.length_append,
          List.length_singleton] at *
        omega
      simp only [tell, note, h0]
      apply Prod.Lex.right
      unfold Pursuit.rank
      split <;> omega

theorem act_follows {s : Supervisor} {due : Nat} (h : s.due? = some due) :
    Follows s.act s due := by
  unfold act
  split
  · rename_i d hp
    simp only [due?, hp, Option.some.injEq] at h
    subst h
    exact check_follows s d hp
  · rename_i p hp
    simp only [due?, hp, Option.some.injEq] at h
    subst h
    dsimp only
    split
    · rename_i p' ha
      intro due' h'
      simp only [due?, Option.some.injEq] at h'
      subst h'
      right
      refine ⟨Pursuit.due_act ha, ?_⟩
      simp only [Below, standing, hp]
      apply Prod.Lex.right
      rcases Pursuit.act_decreases ha with hlt | ⟨heq, hlt⟩
      · exact Prod.Lex.left _ _ hlt
      · rw [heq]; exact Prod.Lex.right _ hlt
    · rename_i key ha
      intro due' h'
      unfold rebuild at *
      rcases rearm_follows _ due' h' with hlt | ⟨hle, hpend, hpend'⟩
      · left
        simpa using hlt
      · right
        simp only [now_conclude, now_finishBuild] at hle
        simp only [pending_conclude, pending_finishBuild] at hpend
        refine ⟨hle, ?_⟩
        simp only [Below, standing]
        apply Prod.Lex.left
        rw [hpend']
        simp [hpend]
  · rename_i hp
    simp [due?, hp] at h
  · rename_i hp
    simp [due?, hp] at h

/-- What is ahead of a supervisor up to a time: the time from its next action on, and how it
stands. -/
def ahead (s : Supervisor) (limit : Nat) : Nat × Nat × Nat × Nat :=
  ((match s.due? with | some due => limit + 1 - due | none => 0), s.standing)

/-- Every action that is due leaves less ahead. -/
theorem ahead_act_lt {s : Supervisor} {due limit : Nat} (h : s.due? = some due)
    (hl : due ≤ limit) : Prod.Lex (· < ·) Below (s.act.ahead limit) (s.ahead limit) := by
  have hf := act_follows h
  unfold ahead
  rw [h]
  cases hd : s.act.due? with
  | none =>
    apply Prod.Lex.left
    dsimp only
    omega
  | some due' =>
    rcases hf due' hd with hlt | ⟨hge, hb⟩
    · apply Prod.Lex.left
      dsimp only
      omega
    · rcases Nat.lt_or_ge due due' with hlt | hge'
      · apply Prod.Lex.left
        dsimp only
        omega
      · have : due' = due := by omega
        subst this
        apply Prod.Lex.right
        exact hb

/-- Acts as long as something is due by a time. -/
def runTo (s : Supervisor) (limit : Nat) : Supervisor :=
  match _h : s.due? with
  | none => s
  | some due => if due ≤ limit then runTo s.act limit else s
termination_by s.ahead limit
decreasing_by
  rename_i hl
  exact ahead_act_lt _h hl

/-- What is still to come behind a run is due later. -/
theorem lt_due_runTo (s : Supervisor) (limit : Nat) :
    ∀ due, (s.runTo limit).due? = some due → limit < due := by
  intro due h
  fun_induction runTo s limit with
  | case1 s hd => simp [hd] at h
  | case2 s due' hd hle ih => exact ih h
  | case3 s due' hd hle =>
    rw [hd] at h
    cases h
    omega

theorem now_runTo_le {s : Supervisor} {limit : Nat} (h : s.now ≤ limit) :
    (s.runTo limit).now ≤ limit := by
  fun_induction runTo s limit with
  | case1 s hd => exact h
  | case2 s due hd hle ih => exact ih (by rw [now_act hd]; exact hle)
  | case3 s due hd hle => exact h

end Supervisor

end Tether.Agent
