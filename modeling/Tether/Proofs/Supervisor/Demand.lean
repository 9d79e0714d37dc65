import Tether.Proofs.Supervisor.Settled

/-!
Why sessions are replaced. A build is begun for the start, for each check that fails and for each
request that is taken, and for nothing else (`Moment.Reaches.owes`). A check fails when no session
is held, when the one that is held is closed, or when the outcome that it takes off the script is
not the healthy one; one that passes changes nothing that matters (`Checkup.failed_iff`,
`Supervisor.check_passed`). The script of outcomes is one queue for all sessions:
`Supervisor.checkups` lists the checks that a supervisor makes, and all that was ever scripted is
what they took, in their order, with what is still to come behind it. `reconnect_demand` puts this
together for every run.
-/

namespace Tether.Agent

open Tether.Control Tether.Overlay Tether.Sim

/-! ## What a check finds -/

/-- A check: the session that is held, and the network that is asked. -/
structure Checkup where
  current : Option Nat
  net : Network

namespace Checkup

/-- The check passes. -/
def passed (c : Checkup) : Bool := (checkHealth c.net c.current).2.isOk

/-- The outcome that the check takes. Of an open session it takes the next one, and an empty script
stands for a member; of a closed session it takes none, but for a failure to get a client that is
next; without a session it takes none. -/
def outcome (c : Checkup) : Option HealthOutcome :=
  match c.current with
  | none => none
  | some id =>
    if c.net.isOpen id then some (c.net.health.headD .member)
    else c.net.health.head?.filter (· == .localClientError)

/-- What the check takes off the script. -/
def drawn (c : Checkup) : List HealthOutcome :=
  if c.net.health = [] then [] else c.outcome.toList

/-- Without a session a check fails and asks nobody. -/
theorem checkHealth_none (net : Network) : checkHealth net none = (net, .error .noSession) := rfl

/-- The check of a closed session fails, and leaves the script alone but for a failure to get a
client that is next. -/
theorem checkHealth_closed {net : Network} {id : Nat} (h : net.isOpen id = false) :
    (checkHealth net (some id)).2.isOk = false ∧
      net.health =
        (net.health.head?.filter (· == .localClientError)).toList ++
          (checkHealth net (some id)).1.health := by
  obtain ⟨sessions, listeners, health, startFailures, failListen, healthChecks, dials⟩ := net
  -- neither the script nor the count of checks matters to what is open
  have hn (script count) :
      Network.isOpen ⟨sessions, listeners, script, startFailures, failListen, count, dials⟩ id =
        false := h
  unfold checkHealth Network.localClient Network.status
  cases health with
  | nil => simp [hn, Except.isOk, Except.toBool]
  | cons o rest => cases o <;> simp [hn, Except.isOk, Except.toBool, Option.filter_some]

/-- The check of an open session passes exactly on the healthy outcome, and takes the next one. -/
theorem checkHealth_open {net : Network} {id : Nat} (h : net.isOpen id = true) :
    ((checkHealth net (some id)).2.isOk = true ↔ net.health.headD .member = .member) ∧
      (checkHealth net (some id)).1.health = net.health.tail := by
  obtain ⟨sessions, listeners, health, startFailures, failListen, healthChecks, dials⟩ := net
  -- neither the script nor the count of checks matters to what is open
  have hn (script count) :
      Network.isOpen ⟨sessions, listeners, script, startFailures, failListen, count, dials⟩ id =
        true := h
  unfold checkHealth Network.localClient Network.status
  cases health with
  | nil => simp [hn, Except.isOk, Except.toBool]
  | cons o rest => cases o <;> simp [hn, Except.isOk, Except.toBool]

/-- A check fails exactly when no session is held, when the session is closed, or when the outcome
that it takes is not the healthy one. -/
theorem failed_iff (c : Checkup) : c.passed = false ↔
    c.current = none ∨ (∃ id, c.current = some id ∧ c.net.isOpen id = false) ∨
      ∃ o, c.outcome = some o ∧ o ≠ .member := by
  obtain ⟨_ | id, net⟩ := c
  · simp [passed, checkHealth_none, Except.isOk, Except.toBool]
  · unfold passed outcome
    cases ho : net.isOpen id with
    | false => simp [ho, (checkHealth_closed ho).1]
    | true =>
      rw [← Bool.not_eq_true, (checkHealth_open ho).1]
      simp [ho]

/-- A check takes its outcome off the front of the script and leaves the rest. -/
theorem health_eq (c : Checkup) :
    c.net.health = c.drawn ++ (checkHealth c.net c.current).1.health := by
  obtain ⟨_ | id, net⟩ := c
  · simp [drawn, outcome, checkHealth_none]
  · unfold drawn outcome
    cases ho : net.isOpen id with
    | false =>
      have hc := (checkHealth_closed ho).2
      cases hh : net.health with
      | nil => simpa [hh] using hc
      | cons o rest => simpa [hh, ho] using hc
    | true =>
      have hc := (checkHealth_open ho).2
      cases hh : net.health with
      | nil => simp [hh, hc]
      | cons o rest => simp [hh, hc, ho]

end Checkup

/-! ## Builds are owed -/

/-- How often an event is on record. -/
def occurrences (e : Event) (history : List (Nat × Event)) : Nat := history.countP (·.2 == e)

@[simp] theorem occurrences_cons (e : Event) (time : Nat) (x : Event)
    (history : List (Nat × Event)) :
    occurrences e ((time, x) :: history) = occurrences e history + if x = e then 1 else 0 := by
  simp [occurrences, List.countP_cons]

/-- The builds that are called for and not begun yet. -/
def Duty.owed : Duty → Nat
  | .fall | .withdraw | .close _ | .announce | .ask => 1
  | _ => 0

theorem Duty.owed_of_opens {duty : Duty} (h : duty.opens = true) : duty.owed = 0 := by
  cases duty <;> first | rfl | cases h

namespace Moment

/-- Builds are begun for the start, for failed checks and for requests, and for nothing else. -/
def Owes (m : Moment) : Prop :=
  occurrences .begun m.supervisor.history + m.duty.owed =
    1 + occurrences (.checked false) m.supervisor.history +
      occurrences .requested m.supervisor.history

theorem owes_check {first : Bool} {due : Time.Span} {s : Supervisor}
    (h : Owes ⟨first, .check due, s⟩) : (work ⟨first, .check due, s⟩).Owes := by
  unfold Owes at *
  simp only [work]
  cases (checkHealth s.net s.current).2.isOk with
  | true => simpa [Duty.owed, Supervisor.note, Supervisor.tell] using h
  | false =>
    simp only [Duty.owed, Supervisor.note, Supervisor.tell, occurrences_cons] at h ⊢
    simp
    omega

theorem owes_work {m : Moment} (h : m.Owes) : m.work.Owes := by
  obtain ⟨first, duty, s⟩ := m
  cases duty with
  | wait => exact h
  | check due => exact owes_check h
  | ask =>
    unfold Owes at *
    simpa [work, Duty.owed, Supervisor.note] using h
  | withdraw =>
    simp only [work]
    split <;> simpa [Owes, Duty.owed, Supervisor.publishSlot, Supervisor.note] using h
  | start key =>
    simp only [work]
    split <;> simpa [Owes, Duty.owed, Supervisor.note] using h
  | listen id =>
    simp only [work]
    split <;> simpa [Owes, Duty.owed, Supervisor.tell] using h
  | conclude e =>
    cases first <;> cases e <;>
      simpa [Owes, work, Duty.owed, Supervisor.conclude, Supervisor.publish, Supervisor.tell,
        Supervisor.note] using h
  | rearm =>
    simp only [work]
    split <;> exact h
  | rest =>
    simp only [work]
    split
    · simp only [Owes, Duty.owed, Supervisor.note, Supervisor.tell, occurrences_cons] at h ⊢
      simp
      omega
    · exact h
  | _ =>
    simpa [Owes, work, Duty.owed, Supervisor.closeSession, Supervisor.publish,
      Supervisor.publishSlot, Supervisor.tell, Supervisor.note] using h

/-- At every moment within reach, the builds begun and owed are those that were called for. -/
theorem Reaches.owes {m₀ m : Moment} (h₀ : m₀.Owes) (h : Reaches m₀ m) : m.Owes := by
  refine h.keeps (fun _ hn ho => ?_) h₀
  obtain rfl | hi := hn.quiet
  · exact owes_work ho
  · -- no build is begun, no check made and no request taken while the supervisor waits
    have hsame (e : Event) (he : ∀ id, (Event.closed id == e) = false ∧
        (Event.closedOutside id == e) = false) := hi.countP_eq (p := (· == e)) he
    unfold Owes occurrences at *
    rw [hsame .begun (by simp), hsame (.checked false) (by simp), hsame .requested (by simp),
      Duty.owed_of_opens hi.opens]
    rwa [hi.duty] at ho

theorem owes_first (l : Launch) : l.first.Owes := rfl

end Moment

/-! ## What leaves the script alone -/

/-- The verdict of a check. -/
def Event.verdict? : Event → Option Bool
  | .checked passed => some passed
  | _ => none

/-- The verdicts of the checks on record, oldest first. -/
def verdicts (history : List (Nat × Event)) : List Bool :=
  history.reverse.filterMap (·.2.verdict?)

@[simp] theorem verdicts_cons (time : Nat) (e : Event) (history : List (Nat × Event)) :
    verdicts ((time, e) :: history) = verdicts history ++ e.verdict?.toList := by
  unfold verdicts
  rw [List.reverse_cons, List.filterMap_append, List.filterMap_cons, List.filterMap_nil]
  cases e.verdict? <;> rfl

@[simp] theorem health_modifySession (n : Network) (id : Nat) (f : Session → Session) :
    (n.modifySession id f).health = n.health := by
  cases id <;> rfl

@[simp] theorem health_start (n : Network) (options : Options) :
    (n.start options).1.health = n.health := by
  unfold Network.start
  split <;> rfl

@[simp] theorem health_setFallback (n : Network) (id : Nat) (f : Fallback) :
    (n.setFallback id f).health = n.health := health_modifySession _ _ _

@[simp] theorem health_listen (n : Network) (id : Nat) (port : UInt16) :
    (n.listen id port).1.health = n.health := by
  unfold Network.listen
  split
  · rfl
  · split
    · rfl
    · exact health_modifySession _ _ _

@[simp] theorem health_close (n : Network) (id : Nat) : (n.close id).1.health = n.health := by
  unfold Network.close
  split
  · exact health_modifySession _ _ _
  · rfl

namespace Supervisor

/-- No check was made, and the script is as it was. -/
def Unchecked (s s' : Supervisor) : Prop :=
  s'.net.health = s.net.health ∧ verdicts s'.history = verdicts s.history

theorem Unchecked.trans {s₁ s₂ s₃ : Supervisor} (h : s₁.Unchecked s₂) (h' : s₂.Unchecked s₃) :
    s₁.Unchecked s₃ := ⟨h'.1.trans h.1, h'.2.trans h.2⟩

end Supervisor

namespace Moment

/-- Events that are no checks add no verdict. -/
theorem verdicts_records {s s' : Supervisor} {events : List Event} (hr : Records s events s')
    (he : ∀ passed, .checked passed ∉ events) : verdicts s'.history = verdicts s.history := by
  rw [hr.history]
  clear hr
  induction events with
  | nil => rfl
  | cons e events ih =>
    simp only [List.mem_cons, not_or] at he
    have hv : e.verdict? = none := by
      cases e with
      | checked passed => exact absurd rfl (he passed).1
      | _ => rfl
    rw [List.map_cons, List.cons_append, verdicts_cons, ih fun passed => (he passed).2, hv]
    exact List.append_nil _

@[simp] theorem net_enter (s : Supervisor) : s.enter.net = s.net := by
  unfold Supervisor.enter
  dsimp only
  split <;> rfl

/-- Only a check takes anything off the script. -/
theorem health_work {m : Moment} (h : ∀ due, m.duty ≠ .check due) :
    m.work.supervisor.net.health = m.supervisor.net.health := by
  obtain ⟨first, duty, s⟩ := m
  cases duty with
  | check due => exact absurd rfl (h due)
  | start key =>
    have hh := health_start s.net (s.setup.settings.options key)
    simp only [work]
    generalize s.net.start (s.setup.settings.options key) = started at hh ⊢
    obtain ⟨net, cause | id⟩ := started <;> exact hh
  | listen id =>
    have hh := health_listen s.net id s.setup.settings.livenessPort
    simp only [work]
    generalize s.net.listen id s.setup.settings.livenessPort = heard at hh ⊢
    obtain ⟨net, cause | listener⟩ := heard <;> exact hh
  | equip id => exact health_setFallback _ _ _
  | close id | discard id cause => exact health_close _ _
  | withdraw =>
    simp only [work]
    split <;> rfl
  | conclude e =>
    cases first <;> cases e <;>
      simp [work, Supervisor.conclude, Supervisor.publish, Supervisor.tell, Supervisor.note]
  | rearm | rest =>
    simp only [work]
    split <;> rfl
  | _ => rfl

/-- No atomic action is followed by a check. -/
theorem duty_work {m : Moment} (h : ∀ due, m.duty ≠ .check due) :
    ∀ due, m.work.duty ≠ .check due := by
  obtain ⟨first, duty, s⟩ := m
  cases duty with
  | check due => exact absurd rfl (h due)
  | withdraw | start _ | listen _ | rearm | rest =>
    simp only [work]
    split <;> simp
  | conclude e => cases first <;> cases e <;> simp [work]
  | _ => simp [work]

/-- An atomic action that is no check makes none. -/
theorem unchecked_work {m : Moment} (h : ∀ due, m.duty ≠ .check due) :
    m.supervisor.Unchecked m.work.supervisor := by
  obtain ⟨events, hr, hc⟩ := records_work m
  refine ⟨health_work h, verdicts_records hr fun passed hp => ?_⟩
  obtain ⟨-, due, hd⟩ := hc passed hp
  exact h due hd

theorem Leads.unchecked {m m' : Moment} (h : Leads m m') (hm : ∀ due, m.duty ≠ .check due) :
    m.supervisor.Unchecked m'.supervisor := by
  have hall : m.supervisor.Unchecked m'.supervisor ∧ ∀ due, m'.duty ≠ .check due := by
    induction h with
    | refl => exact ⟨⟨rfl, rfl⟩, hm⟩
    | tail _ hw ih =>
      subst hw
      exact ⟨ih.1.trans (unchecked_work ih.2), duty_work ih.2⟩
  exact hall.1

end Moment

/-! ## The checks of a run -/

namespace Supervisor

/-- The check that a supervisor would make now. -/
def checkup (s : Supervisor) : Checkup := ⟨s.current, s.net⟩

/-- The check that the next action is, if it is one. -/
def checkup? (s : Supervisor) : Option Checkup :=
  match s.phase with
  | .watching _ => some s.checkup
  | _ => none

/-- The checks that a supervisor makes up to a time, in their order. -/
def checkups (s : Supervisor) (limit : Nat) : List Checkup :=
  match _h : s.due? with
  | none => []
  | some due => if due ≤ limit then s.checkup?.toList ++ checkups s.act limit else []
termination_by s.ahead limit
decreasing_by
  rename_i hl
  exact ahead_act_lt _h hl

/-- The checks that a supervisor makes because of a request that waits. -/
def checkupsAfter (s : Supervisor) : List Checkup :=
  match s.phase with
  | .watching _ => if s.pending then s.takeRequest.checkups s.now else []
  | _ => []

/-- The checks that a supervisor makes because of a step. -/
def checkupsIn (s : Supervisor) : Step → List Checkup
  | .advance time => s.checkups (s.now + time)
  | .reconnect times => if s.isStopped then [] else (s.ask times).checkupsAfter
  | _ => []

/-- The checks that a supervisor makes because of some steps. -/
def checkupsAlong (s : Supervisor) : List Step → List Checkup
  | [] => []
  | x :: steps => s.checkupsIn x ++ (s.perform x).checkupsAlong steps

end Supervisor

/-- The checks of a run, in their order. -/
def Launch.checkups (l : Launch) (steps : List Step) : List Checkup :=
  l.start.1.checkupsAlong steps

/-- The outcomes that a step adds to the script. -/
def Step.scripted : Step → List HealthOutcome
  | .scriptHealth outcomes => outcomes
  | _ => []

namespace Supervisor

/-- On the way from one supervisor to another some outcomes are scripted and some checks are made:
the checks take what they take off the front of the script, and their verdicts go on record. -/
structure Accounts (s : Supervisor) (scripted : List HealthOutcome) (checks : List Checkup)
    (s' : Supervisor) : Prop where
  script : s.net.health ++ scripted = checks.flatMap Checkup.drawn ++ s'.net.health
  record : verdicts s'.history = verdicts s.history ++ checks.map Checkup.passed

namespace Accounts

variable {s s' s'' : Supervisor} {scripted more : List HealthOutcome} {checks later : List Checkup}

theorem refl (s : Supervisor) : s.Accounts [] [] s := ⟨by simp, by simp⟩

theorem of_unchecked (h : s.Unchecked s') : s.Accounts [] [] s' := ⟨by simp [h.1], by simp [h.2]⟩

theorem trans (h : s.Accounts scripted checks s') (h' : s'.Accounts more later s'') :
    s.Accounts (scripted ++ more) (checks ++ later) s'' where
  script := by
    rw [← List.append_assoc, h.script, List.append_assoc, h'.script, List.flatMap_append,
      List.append_assoc]
  record := by
    rw [h'.record, h.record, List.map_append, List.append_assoc]

end Accounts

theorem unchecked_reconnect (s : Supervisor) : s.Unchecked s.reconnect :=
  (Moment.fall_leads false s).unchecked (by simp)

theorem unchecked_rebuild (s : Supervisor) (key : Key) : s.Unchecked (s.rebuild key) :=
  (Moment.rebuild_leads s key).unchecked (by simp)

/-- A check takes what it takes, whatever follows it. -/
theorem accounts_check (s : Supervisor) (due : Time.Span) :
    s.Accounts [] [s.checkup] (s.check due) := by
  -- the supervisor when the verdict is on record and nothing was done about it
  let t : Supervisor := (({ s with net := (checkHealth s.net s.current).1 } : Supervisor).tell
    (s.checkedEntry (checkHealth s.net s.current).2)).note
      (.checked (checkHealth s.net s.current).2.isOk)
  have ht : s.Accounts [] [s.checkup] t := by
    refine ⟨?_, ?_⟩
    · simpa [t, note, tell, checkup] using s.checkup.health_eq
    · simp [t, note, tell, Event.verdict?, Checkup.passed, checkup]
  have hu : t.Unchecked (s.check due) := by
    unfold check
    dsimp only
    split
    · exact ⟨rfl, by simp [publish, note, t, tell, Event.verdict?]⟩
    · exact unchecked_reconnect t
  simpa using ht.trans (.of_unchecked hu)

theorem accounts_act (s : Supervisor) : s.Accounts [] s.checkup?.toList s.act := by
  unfold checkup?
  cases hp : s.phase with
  | watching due =>
    obtain ⟨hs, hr⟩ := accounts_check { s with now := due.ticks } due
    rw [act_watching hp]
    exact ⟨hs, hr⟩
  | building p =>
    refine .of_unchecked ?_
    simp only [act, hp]
    split
    · exact ⟨rfl, rfl⟩
    · exact ⟨(unchecked_rebuild _ _).1, (unchecked_rebuild _ _).2⟩
  | crashed =>
    simp only [act, hp]
    exact .refl s
  | stopped =>
    simp only [act, hp]
    exact .refl s

/-- To act up to a time accounts for the checks up to then. -/
theorem accounts_runTo (s : Supervisor) (limit : Nat) :
    s.Accounts [] (s.checkups limit) (s.runTo limit) := by
  -- `checkups` recurs as `runTo` does, so each case only unfolds it once
  fun_induction runTo s limit with
  | case1 s hd =>
    have he : s.checkups limit = [] := by
      rw [checkups]
      split <;> simp_all
    rw [he]
    exact .refl s
  | case2 s due hd hle ih =>
    have he : s.checkups limit = s.checkup?.toList ++ s.act.checkups limit := by
      rw [checkups]
      split <;> simp_all
    rw [he]
    exact (accounts_act s).trans ih
  | case3 s due hd hle =>
    have he : s.checkups limit = [] := by
      rw [checkups]
      split <;> simp_all [Nat.not_le.2]
    rw [he]
    exact .refl s

/-- To take a request accounts for the checks that follow at once. -/
theorem accounts_react (s : Supervisor) : s.Accounts [] s.checkupsAfter s.react := by
  unfold checkupsAfter react
  cases hp : s.phase with
  | watching due =>
    cases hq : s.pending with
    | true =>
      have hr : s.Unchecked s.rest := (Moment.rest_leads false s).unchecked (by simp)
      rw [rest_watching hp, if_pos hq] at hr
      exact (Accounts.of_unchecked hr).trans (accounts_runTo s.takeRequest s.now)
    | false => exact .refl s
  | _ => exact .refl s

/-- Every step accounts for what it scripts and for the checks that it leads to. -/
theorem accounts_perform (s : Supervisor) (x : Step) :
    s.Accounts x.scripted (s.checkupsIn x) (s.perform x) := by
  cases x with
  | advance time =>
    obtain ⟨hs, hr⟩ := accounts_runTo s (s.now + time)
    exact ⟨hs, hr⟩
  | reconnect times =>
    unfold checkupsIn perform
    dsimp only
    split
    · exact .refl s
    · have hu : s.Unchecked (s.ask times) := by
        obtain ⟨pending, log, ha⟩ := s.ask_eq times
        rw [ha]
        exact ⟨rfl, rfl⟩
      exact (Accounts.of_unchecked hu).trans (accounts_react (s.ask times))
  | scriptHealth outcomes => exact ⟨rfl, by simp [checkupsIn, perform, onNet]⟩
  | close session =>
    refine .of_unchecked ⟨health_close _ _, ?_⟩
    simp [perform, closeOutside, note, Event.verdict?]
  | shutdown =>
    refine .of_unchecked ?_
    unfold perform stop
    dsimp only
    split
    · exact ⟨rfl, rfl⟩
    · split
      · exact ⟨rfl, rfl⟩
      · exact ⟨health_close _ _, by simp [closeSession, note, Event.verdict?]⟩
  | failNextStarts _ | failListen _ => exact .of_unchecked ⟨rfl, rfl⟩

theorem accounts_along (s : Supervisor) (steps : List Step) :
    s.Accounts (steps.flatMap Step.scripted) (s.checkupsAlong steps) (steps.foldl perform s) := by
  induction steps generalizing s with
  | nil => exact .refl s
  | cons x steps ih => exact (accounts_perform s x).trans (ih (s.perform x))

end Supervisor

/-! ## Every run -/

/-- A start makes no check and takes nothing off the script. -/
theorem unchecked_launch (l : Launch) :
    l.start.1.net.health = l.health ∧ verdicts l.start.1.history = [] := by
  unfold Launch.start Supervisor.start
  dsimp only
  generalize (Source.ofScript l.replies).obtain l.setup.retry l.now l.deadline = run
  cases hq : run.progress with
  | pursuing p => exact ⟨rfl, rfl⟩
  | got key =>
    let s : Supervisor := ((Supervisor.fresh l.setup l.net (.ofScript l.replies) l.now).publish
      .connecting).note .begun
    exact (Moment.comeUp_leads { s with
      source := run.source, now := run.now, log := run.log.reverse ++ s.log } .stopped key
        rfl).unchecked (by simp)

theorem accounts_run (l : Launch) (steps : List Step) :
    l.start.1.Accounts (steps.flatMap Step.scripted) (l.checkups steps) (l.run steps) :=
  l.start.1.accounts_along steps

/-- A check that passes changes neither the slot nor the generation, neither the session that is
held nor any other, and asks for no key. -/
theorem check_passed {s : Supervisor} {due : Time.Span} (hp : s.phase = .watching due)
    (h : s.checkup.passed = true) :
    s.act.slot = s.slot ∧ s.act.generation = s.generation ∧ s.act.current = s.current ∧
      s.act.net.sessions = s.net.sessions ∧ s.act.source = s.source := by
  have hok : (checkHealth s.net s.current).2.isOk = true := h
  rw [Supervisor.act_watching hp]
  unfold Supervisor.check
  dsimp only
  rw [if_pos hok]
  exact ⟨rfl, rfl, rfl, Network.sessions_checkHealth _ _, rfl⟩

/-- In every run, a build is begun for the start, for each check that fails and for each request
that is taken, and for nothing else. The checks on record are those that the supervisor made, with
their verdicts; each fails exactly when no session is held, when the session is closed, or when the
outcome that it takes is not the healthy one. All that was ever scripted is what the checks took, in
their order, and what is still to come. And each check takes its own outcome off the script; if it
passes, nothing else is changed. -/
theorem reconnect_demand (l : Launch) (steps : List Step) :
    let s := l.run steps
    occurrences .begun s.history =
      1 + occurrences (.checked false) s.history + occurrences .requested s.history ∧
    verdicts s.history = (l.checkups steps).map Checkup.passed ∧
    (∀ c ∈ l.checkups steps, c.passed = false ↔
      c.current = none ∨ (∃ id, c.current = some id ∧ c.net.isOpen id = false) ∨
        ∃ o, c.outcome = some o ∧ o ≠ .member) ∧
    l.health ++ steps.flatMap Step.scripted =
      (l.checkups steps).flatMap Checkup.drawn ++ s.net.health ∧
    ∀ (t : Supervisor) (due : Time.Span), t.phase = .watching due →
      t.net.health = t.checkup.drawn ++ t.act.net.health ∧
      (t.checkup.passed = true → t.act.slot = t.slot ∧ t.act.generation = t.generation ∧
        t.act.current = t.current ∧ t.act.net.sessions = t.net.sessions ∧
        t.act.source = t.source) := by
  intro s
  have ho : Moment.Owes ⟨false, .wait, s⟩ :=
    (Moment.reaches_run l steps).owes (Moment.owes_first l)
  obtain ⟨hh, hv⟩ := unchecked_launch l
  obtain ⟨hs, hr⟩ := accounts_run l steps
  rw [hh] at hs
  rw [hv, List.nil_append] at hr
  refine ⟨ho, hr, fun c _ => c.failed_iff, hs, fun t due hp => ⟨?_, check_passed hp⟩⟩
  have ht := (t.accounts_act).script
  simpa [Supervisor.checkup?, hp] using ht

/-- A plain launch has begun one build, and its first check will pass and change nothing. -/
theorem reconnect_demand_plain :
    let s := Launch.plain.run []
    occurrences .begun s.history = 1 ∧ s.checkup.passed = true ∧ s.act.slot = s.slot ∧
      s.act.source = s.source := by
  have h : (Launch.plain.run []).phase = .watching (.ofMillis 5000) ∧
      (Launch.plain.run []).checkup.passed = true ∧
      occurrences (.checked false) (Launch.plain.run []).history = 0 ∧
      occurrences .requested (Launch.plain.run []).history = 0 := by
    unfold Launch.run Launch.start Supervisor.start
    rw [Source.obtain_of_result rfl (Nat.zero_le _)]
    exact ⟨rfl, rfl, rfl, rfl⟩
  obtain ⟨hp, hok, hc, hr⟩ := h
  obtain ⟨hb, -, -, -, hact⟩ := reconnect_demand .plain []
  obtain ⟨-, hpass⟩ := hact _ _ hp
  obtain ⟨hsl, -, -, -, hso⟩ := hpass hok
  rw [hc, hr] at hb
  exact ⟨hb, hok, hsl, hso⟩

end Tether.Agent
