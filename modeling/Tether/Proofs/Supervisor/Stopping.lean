import Tether.Proofs.Supervisor.Settled
import Tether.Proofs.Supervisor.SingleSession

/-!
Behind its end a supervisor leaves nothing. A supervisor that was stopped holds no open session,
whatever it was doing: the one that may be open is the one in its slot, and that is closed. One that
never came up holds none either: its build failed and closed what it had started, or nobody waited
for its key any longer. From then on no session is started, no check made and no key called for,
however far the clock is moved: `stopped_for_good`.
-/

namespace Tether.Sim.Network

/-- A close changes sessions, and nothing else of a network. -/
theorem close_eq (n : Network) (id : Nat) :
    ∃ sessions, (n.close id).1 = { n with sessions := sessions } := by
  unfold close
  split
  · cases id with
    | zero => exact ⟨n.sessions, rfl⟩
    | succ i => exact ⟨_, rfl⟩
  · exact ⟨n.sessions, rfl⟩

theorem OnlyOpen.openCount_eq_zero {n : Network} (h : n.OnlyOpen none) : n.openCount = 0 := by
  unfold openCount
  rw [List.length_eq_zero_iff, List.filter_eq_nil_iff]
  intro s hs ho
  obtain ⟨i, hi⟩ := List.mem_iff_getElem?.1 hs
  have hopen : n.isOpen (i + 1) = true := by
    simpa [isOpen, session?, hi] using ho
  cases h (i + 1) hopen

end Tether.Sim.Network

namespace Tether.Agent

open Tether.Control Tether.Overlay Tether.Sim

namespace Supervisor

/-- No session was started, no check made and no key called for on the way from one supervisor to
another. -/
structure Inert (s s' : Supervisor) : Prop where
  sessions : s'.net.sessions.length = s.net.sessions.length
  checks : s'.net.healthChecks = s.net.healthChecks
  calls : s'.source.calls = s.source.calls

theorem Inert.refl (s : Supervisor) : s.Inert s := ⟨rfl, rfl, rfl⟩

theorem Inert.trans {s₁ s₂ s₃ : Supervisor} (h : s₁.Inert s₂) (h' : s₂.Inert s₃) : s₁.Inert s₃ :=
  ⟨h'.sessions.trans h.sessions, h'.checks.trans h.checks, h'.calls.trans h.calls⟩

theorem Inert.close {s s' : Supervisor} {id : Nat} (hn : s'.net = (s.net.close id).1)
    (hs : s'.source = s.source) : s.Inert s' := by
  have hl := Network.length_close s.net id
  obtain ⟨sessions, he⟩ := s.net.close_eq id
  refine ⟨?_, ?_, ?_⟩
  · rw [hn]
    exact hl
  · rw [hn, he]
  · rw [hs]

/-- The supervisor is over, and none of its sessions is open. -/
structure Over (s : Supervisor) : Prop where
  stopped : s.phase = .stopped
  closed : s.net.OnlyOpen none

/-- A supervisor that is over stays so, and does nothing. -/
theorem Over.perform {s : Supervisor} (h : s.Over) (x : Step) :
    (s.perform x).Over ∧ s.Inert (s.perform x) := by
  have hstopped : s.isStopped = true := by
    unfold isStopped
    rw [h.stopped]
  cases x with
  | advance time =>
    have hrun : s.runTo (s.now + time) = s := runTo_stopped h.stopped _
    show (s.advance time).Over ∧ s.Inert (s.advance time)
    unfold advance
    rw [hrun]
    exact ⟨⟨h.stopped, h.closed⟩, rfl, rfl, rfl⟩
  | reconnect times | shutdown =>
    simp only [Supervisor.perform, hstopped, if_true]
    exact ⟨h, .refl s⟩
  | close session =>
    refine ⟨⟨h.stopped, ?_⟩, .close rfl rfl⟩
    exact h.closed.close session
  | scriptHealth _ | failNextStarts _ | failListen _ =>
    exact ⟨⟨h.stopped, h.closed⟩, rfl, rfl, rfl⟩

theorem Over.steps {s : Supervisor} (h : s.Over) (steps : List Step) :
    (steps.foldl Supervisor.perform s).Over ∧ s.Inert (steps.foldl Supervisor.perform s) := by
  induction steps generalizing s with
  | nil => exact ⟨h, .refl s⟩
  | cons x steps ih =>
    obtain ⟨hx, hi⟩ := h.perform x
    obtain ⟨hsteps, hi'⟩ := ih hx
    exact ⟨hsteps, hi.trans hi'⟩

/-! ## How a supervisor comes to be over -/

/-- Whoever stops a supervisor closes the only session that may be open. -/
theorem over_stop {s : Supervisor} (hf : s.Fits .wait) (hs : s.net.OnlyOpen s.current) :
    s.stop.Over := by
  refine ⟨phase_stop s, ?_⟩
  -- whatever it waits for, the slot of a supervisor that waits holds the session at hand
  obtain ⟨hslot, hcurrent⟩ | ⟨id, hslot, hcurrent, -⟩ := Moment.bare_or_shows_of_wait hf
  · have hn : s.stop.net = s.net := by
      unfold stop
      rw [hslot]
    rw [hn]
    rwa [hcurrent] at hs
  · have hn : s.stop.net = (s.net.close id).1 := by
      unfold stop
      rw [hslot]
      rfl
    rw [hn]
    rw [hcurrent] at hs
    exact hs.close_self none

/-- A build that fails leaves the supervisor without a session, as it was. -/
theorem finishBuild_failed {s : Supervisor} {key : Key} {e : Error}
    (h : (s.finishBuild key).2 = some e) :
    (s.finishBuild key).1.current = s.current ∧ (s.finishBuild key).1.phase = s.phase := by
  unfold finishBuild at *
  dsimp only at *
  generalize build s.net s.setup.settings key = built at h ⊢
  obtain ⟨net, cause | ⟨id, cause⟩ | ⟨id, listener⟩⟩ := built
  · exact ⟨rfl, rfl⟩
  · exact ⟨rfl, rfl⟩
  · cases h

end Supervisor

/-- A supervisor whose first build fails holds nothing and waits for nothing more than before. -/
theorem comeUp_not_running {s : Supervisor} {key : Key} (h : (s.comeUp key).2 ≠ .running) :
    (s.comeUp key).1.current = s.current ∧ (s.comeUp key).1.phase = s.phase := by
  have hfailed : ∀ e, (s.finishBuild key).2 = some e → _ := fun _ => Supervisor.finishBuild_failed
  unfold Supervisor.comeUp at *
  generalize s.finishBuild key = built at h hfailed ⊢
  obtain ⟨t, _ | e⟩ := built
  · exact absurd rfl h
  · exact hfailed e rfl

/-- A supervisor that does not come up is over. -/
theorem over_start {l : Launch} (h : l.start.2 ≠ .running) : l.start.1.Over := by
  have hstart : l.start.1.current = none ∧ l.start.1.phase = .stopped := by
    unfold Launch.start Supervisor.start at *
    dsimp only at *
    generalize (Source.ofScript l.replies).obtain l.setup.retry l.now l.deadline = run at h ⊢
    cases hq : run.progress with
    | pursuing p => exact ⟨rfl, rfl⟩
    | got key =>
      simp only [hq] at h ⊢
      exact comeUp_not_running h
  have hs : l.start.1.net.OnlyOpen l.start.1.current :=
    (Moment.reaches_start l).single (Moment.fits_first l) (Moment.single_first l)
  rw [hstart.1] at hs
  exact ⟨hstart.2, hs⟩

/-- A run that did not come up, or was shut down, is over. -/
theorem over_run {l : Launch} {steps : List Step}
    (h : l.start.2 ≠ .running ∨ Step.shutdown ∈ steps) : (l.run steps).Over := by
  by_cases hl : l.start.2 = .running
  · -- up to the first shutdown the supervisor is at work
    have hmem : Step.shutdown ∈ steps := h.resolve_left (not_not_intro hl)
    obtain ⟨before, after, rfl, hbefore⟩ := List.eq_append_cons_of_mem hmem
    have hstop : (l.run before).perform .shutdown = (l.run before).stop := by
      unfold Supervisor.perform
      rw [(atWork_run hl hbefore).not_stopped]
      rfl
    have hr := Moment.reaches_run l before
    have hsingle := hr.single (Moment.fits_first l) (Moment.single_first l)
    have hover : (l.run before).stop.Over := Supervisor.over_stop (fits_run l before) hsingle
    rw [run_append, List.foldl_cons, hstop]
    exact (hover.steps after).1
  · exact ((over_start hl).steps steps).1

/-- Behind a shutdown, at whatever settled point it came, and behind a start that failed or was not
waited for any longer, no session is open; and whatever is done from then on, however far the clock
is moved, the numbers of sessions, of checks and of calls for a key stay as they are. -/
theorem stopped_for_good (l : Launch) (steps more : List Step)
    (h : l.start.2 ≠ .running ∨ Step.shutdown ∈ steps) :
    let s := l.run steps
    let s' := l.run (steps ++ more)
    s.net.openCount = 0 ∧ s'.net.openCount = 0 ∧
      s'.net.sessions.length = s.net.sessions.length ∧
      s'.net.healthChecks = s.net.healthChecks ∧ s'.source.calls = s.source.calls := by
  intro s s'
  have hover : s.Over := over_run h
  obtain ⟨hover', hinert⟩ := hover.steps more
  have hrun : s' = more.foldl Supervisor.perform s := run_append l steps more
  rw [← hrun] at hover' hinert
  exact ⟨hover.closed.openCount_eq_zero, hover'.closed.openCount_eq_zero, hinert.sessions,
    hinert.checks, hinert.calls⟩

/-- A launch whose second key and first start fail. -/
def Launch.barren : Launch :=
  { Launch.plain with
    startFailures := 1
    replies := [⟨0, .numbered⟩, ⟨0, .fail (.config "no key")⟩] }

theorem stopped_for_good_plain :
    (Launch.plain.run [.close 1, .advance 4000, .reconnect 2, .shutdown]).net.openCount = 0 ∧
      Launch.barren.start.2 ≠ .running ∧ (Launch.barren.run [.advance 9000]).net.openCount = 0 := by
  have hstart : Launch.barren.start.2 ≠ .running := by
    unfold Launch.start Supervisor.start
    rw [Source.obtain_of_result rfl (Nat.zero_le _)]
    decide
  have hplain := stopped_for_good .plain [.close 1, .advance 4000, .reconnect 2, .shutdown] []
    (Or.inr (by decide))
  have hbarren := stopped_for_good .barren [.advance 9000] [.advance 1] (Or.inl hstart)
  exact ⟨hplain.1, hstart, hbarren.1⟩

end Tether.Agent
