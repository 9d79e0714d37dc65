import Tether.Proofs.Supervisor.Moment

/-!
Starts and runs are rows of moments: the supervisor behind a start, and behind every list of steps,
is one that the first moment of its launch reaches, and it waits. A fact that holds of all moments
within reach therefore holds after every atomic action of every run, and at every settled point.
-/

namespace Tether.Agent

open Tether.Control Tether.Overlay Tether.Sim

namespace Moment

/-! ## The start -/

theorem finishBuild_phase (s : Supervisor) (ph : Phase) (key : Key) :
    ({ s with phase := ph } : Supervisor).finishBuild key =
      ({ (s.finishBuild key).1 with phase := ph }, (s.finishBuild key).2) := by
  unfold Supervisor.finishBuild Supervisor.settleBuild
  dsimp only
  split <;> rfl

/-- What the pursuit of the first key comes to by a time is within reach. -/
theorem Reaches.pursue {m₀ : Moment} (s : Supervisor) (p : Pursuit) (source : Source)
    (limit : Nat) (log base : List Entry) (now : Nat)
    (h : Reaches m₀ ⟨true, .wait, { s with
      source := source, phase := .building p, now := now, log := log.reverse ++ base }⟩) :
    let run := p.run source s.setup.retry limit log
    ∃ p' now', match run.progress with
      | .pursuing _ => Reaches m₀ ⟨true, .wait, { s with
          source := run.source, phase := .building p', now := now'
          log := run.log.reverse ++ base }⟩
      | .got key => Reaches m₀ ⟨true, .start key, { s with
          source := run.source, phase := .building p', now := run.now
          log := run.log.reverse ++ base }⟩ := by
  generalize hr : s.setup.retry = retry
  -- every wake sets the clock, so the time of the last one is not fixed by the induction
  fun_induction Pursuit.run p source retry limit log generalizing now with
  | case1 p source log hle source' key entries ha =>
    have hw := h.wake rfl
    simp only [Moment.wake, hr, ha] at hw
    refine ⟨p, 0, ?_⟩
    simpa only [List.reverse_append, List.append_assoc] using hw
  | case2 p source log hle source' p' entries ha ih =>
    have hw := h.wake rfl
    simp only [Moment.wake, hr, ha] at hw
    refine ih p.due ?_
    simpa only [List.reverse_append, List.append_assoc] using hw
  | case3 p source log hle => exact ⟨p, now, h⟩

theorem enter_phase (s : Supervisor) (ph : Phase) :
    ({ s with phase := ph } : Supervisor).enter = s.enter := by
  unfold Supervisor.enter Supervisor.tell
  dsimp only

/-- What `comeUp` does, action by action. -/
theorem comeUp_leads (s : Supervisor) (ph : Phase) (key : Key) (h : s.phase = .stopped) :
    Leads ⟨true, .start key, { s with phase := ph }⟩ ⟨false, .wait, (s.comeUp key).1⟩ := by
  have hl := start_leads true { s with phase := ph } key
  rw [finishBuild_phase s] at hl
  have hs : (s.finishBuild key).1.phase = .stopped := by
    rw [finishBuild_phase s s.phase key, h]
  unfold Supervisor.comeUp
  generalize s.finishBuild key = built at hl hs ⊢
  obtain ⟨t, _ | e⟩ := built
  · refine hl.trans (Leads.step ?_)
    simp only [work, enter_phase]
    exact Leads.refl _
  · refine hl.trans (Leads.step ?_)
    simp only [work, Supervisor.publish, Supervisor.note] at hs ⊢
    rw [hs]
    exact Leads.refl _

/-- A start is a row of moments. -/
theorem reaches_start (l : Launch) : Reaches l.first ⟨false, .wait, l.start.1⟩ := by
  let s := (((Supervisor.fresh l.setup l.net (.ofScript l.replies) l.now).publish
    .connecting).note .begun)
  let asked := (Source.ofScript l.replies).ask l.now 1
  have h : Reaches l.first ⟨true, .wait, { s with
      source := asked.1, phase := .building asked.2, now := l.now, log := [] }⟩ :=
    Reaches.refl.work.work
  obtain ⟨p', now', hp⟩ := Reaches.pursue s asked.2 asked.1 l.deadline [] [] l.now h
  -- the start pursues its key in one go; here that is the row of wakes from above
  have ho : (Source.ofScript l.replies).obtain l.setup.retry l.now l.deadline =
      asked.2.run asked.1 s.setup.retry l.deadline [] := rfl
  unfold Launch.start Supervisor.start
  dsimp only
  rw [ho]
  generalize asked.2.run asked.1 s.setup.retry l.deadline [] = run at hp ⊢
  cases hq : run.progress with
  | pursuing q =>
    simp only [hq] at hp ⊢
    exact hp.next (.abandon _ run.now)
  | got key =>
    simp only [hq] at hp ⊢
    exact hp.leads (comeUp_leads { s with
      source := run.source, now := run.now, log := run.log.reverse ++ [] } _ key rfl)

/-! ## Runs -/

/-- A request, and what the supervisor does because of it. -/
theorem Reaches.requestTimes {m₀ : Moment} {s : Supervisor} (times : Nat)
    (h : Reaches m₀ ⟨false, .wait, s⟩) (hs : s.isStopped = false) :
    Reaches m₀ ⟨false, .wait, s.requestTimes times⟩ := by
  have hr := (h.next (.request times hs)).leads (rest_leads false _)
  show Reaches m₀ ⟨false, .wait, (s.ask times).react⟩
  generalize s.ask times = t at hr ⊢
  rw [Supervisor.rest] at hr
  rw [Supervisor.react_eq]
  cases hc : t.isCalled with
  | true =>
    rw [hc, if_pos rfl] at hr
    exact hr.runTo t.now
  | false =>
    rw [hc, if_neg Bool.false_ne_true] at hr
    exact hr

theorem Reaches.perform {m₀ : Moment} {s : Supervisor} (x : Step)
    (h : Reaches m₀ ⟨false, .wait, s⟩) : Reaches m₀ ⟨false, .wait, s.perform x⟩ := by
  cases x with
  | advance time =>
    have hn : (s.runTo (s.now + time)).now ≤ s.now + time :=
      Supervisor.now_runTo_le (Nat.le_add_right _ _)
    exact (h.runTo (s.now + time)).next (.pass hn (s.lt_due_runTo _))
  | reconnect times =>
    unfold Supervisor.perform
    cases hs : s.isStopped
    · exact h.requestTimes times hs
    · exact h
  | scriptHealth outcomes => exact h.next (.refault s (s.net.health ++ outcomes) _ _)
  | failNextStarts count => exact h.next (.refault s _ count _)
  | failListen fail => exact h.next (.refault s _ _ fail)
  | close session => exact h.next (.close s session)
  | shutdown =>
    unfold Supervisor.perform
    cases hs : s.isStopped
    · exact h.next (.shutdown hs)
    · exact h

theorem Reaches.foldl {m₀ : Moment} (steps : List Step) {s : Supervisor}
    (h : Reaches m₀ ⟨false, .wait, s⟩) :
    Reaches m₀ ⟨false, .wait, steps.foldl Supervisor.perform s⟩ := by
  induction steps generalizing s with
  | nil => exact h
  | cons x steps ih => exact ih (h.perform x)

/-- Every run of a launch stays within reach of its first moment. -/
theorem reaches_run (l : Launch) (steps : List Step) :
    Reaches l.first ⟨false, .wait, l.run steps⟩ :=
  (reaches_start l).foldl steps

end Moment

end Tether.Agent
