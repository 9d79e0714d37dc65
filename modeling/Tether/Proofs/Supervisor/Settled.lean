import Mathlib.Data.List.Induction
import Tether.Proofs.Supervisor.Standing

/-!
A supervisor when everything waits. From a start that succeeds until it is shut down it stays at
work: it watches the session it has or builds another, unless its timer could not be set, at the
start or behind a replacement. What it waits for is never far away: a check is due within one period, and a rest between two attempts to
get a key lasts no longer than the retry span. `Supervisor.AtWork` says so, and `atWork_run` that
it holds at every settled point.
-/

namespace Tether.Agent

open Tether.Control Tether.Overlay Tether.Sim

namespace Supervisor

/-! ## At work -/

/-- A supervisor at work takes a request before it waits for a check, and never waits longer than
it was set up to. -/
def AtWork (s : Supervisor) : Prop :=
  match s.phase with
  | .watching deadline =>
    s.pending = false ∧ deadline.nanos ≤ s.now * 1000000 + s.setup.period.nanos
  | .building p => p.stage = .resting → p.due ≤ s.now + s.setup.retry.ticks
  | .crashed => s.setup.firstCheck? s.now = none
  | .stopped => False

theorem AtWork.not_stopped {s : Supervisor} (h : s.AtWork) : s.isStopped = false := by
  unfold AtWork at h
  unfold isStopped
  split
  · rename_i hp
    rw [hp] at h
    exact h.elim
  · rfl

/-- A timer that cannot be set cannot be set later. -/
theorem firstCheck_later {setup : Setup} {now later : Nat} (h : setup.firstCheck? now = none)
    (hn : now ≤ later) : setup.firstCheck? later = none := by
  unfold Setup.firstCheck? at *
  split at h
  · rename_i hi
    rw [if_pos hi]
  · rename_i hi
    rw [if_neg hi]
    split at h
    · rename_i hc
      rw [if_pos]
      calc clockSeconds
        _ ≤ (now * 1000000 + setup.interval.nanos) / 1000000000 := hc
        _ ≤ (later * 1000000 + setup.interval.nanos) / 1000000000 :=
          Nat.div_le_div_right (by omega)
    · cases h

/-- Time only brings nearer what a supervisor waits for. -/
theorem AtWork.later {s : Supervisor} {time : Nat} (h : s.AtWork) (ht : s.now ≤ time) :
    AtWork { s with now := time } := by
  unfold AtWork at *
  dsimp only
  split at h
  · exact ⟨h.1, Nat.le_trans h.2 (Nat.add_le_add_right (Nat.mul_le_mul_right _ ht) _)⟩
  · exact fun hr => Nat.le_trans (h hr) (Nat.add_le_add_right ht _)
  · exact firstCheck_later h ht
  · exact h

theorem atWork_reconnect (s : Supervisor) : s.reconnect.AtWork := by
  unfold AtWork
  rw [phase_reconnect]
  intro h
  cases h

theorem atWork_rearm (s : Supervisor) : s.rearm.AtWork := by
  unfold rearm
  split
  · rename_i deadline hf
    rw [rest_watching rfl]
    split
    · exact atWork_reconnect _
    · rename_i hp
      refine ⟨by simpa using hp, ?_⟩
      rw [firstCheck_eq hf]
      exact Nat.le_refl _
  · rename_i hf
    exact hf

theorem atWork_act {s : Supervisor} (h : s.AtWork) : s.act.AtWork := by
  unfold act
  split
  · rename_i deadline hp
    simp only [AtWork, hp] at h
    unfold check
    dsimp only
    split
    · exact ⟨h.1, Nat.add_le_add_right deadline.nanos_le_ticks _⟩
    · exact atWork_reconnect _
  · rename_i p hp
    dsimp only
    split
    · rename_i p' ha
      unfold Pursuit.act at ha
      -- a pursuit that goes on asks, or begins to rest just now
      split at ha
      · simp only [Source.ask] at ha
        cases ha
        intro h
        cases h
      · cases ha
      · cases ha
        exact fun _ => Nat.le_refl _
    · exact atWork_rearm _
  · exact h
  · exact h

theorem atWork_runTo {s : Supervisor} (limit : Nat) (h : s.AtWork) : (s.runTo limit).AtWork := by
  fun_induction runTo s limit with
  | case1 s hd => exact h
  | case2 s due hd hle ih => exact ih (atWork_act h)
  | case3 s due hd hle => exact h

theorem atWork_requestTimes {s : Supervisor} (times : Nat) (h : s.AtWork) :
    (s.requestTimes times).AtWork := by
  obtain ⟨pending, log, he⟩ := s.ask_eq times
  show (s.ask times).react.AtWork
  rw [he]
  unfold react
  cases hp : s.phase with
  | watching due =>
    cases pending with
    | true => exact atWork_runTo _ (atWork_reconnect _)
    | false =>
      simp only [AtWork, hp] at h
      exact ⟨rfl, h.2⟩
  | building p => simpa only [AtWork, hp] using h
  | crashed => simpa only [AtWork, hp] using h
  | stopped => simp only [AtWork, hp] at h

/-- Every step but the last leaves a supervisor at work. -/
theorem atWork_perform {s : Supervisor} {x : Step} (hx : x ≠ .shutdown) (h : s.AtWork) :
    (s.perform x).AtWork := by
  cases x with
  | advance time =>
    exact (atWork_runTo (s.now + time) h).later (now_runTo_le (Nat.le_add_right _ _))
  | reconnect times =>
    simp only [perform, h.not_stopped]
    exact atWork_requestTimes times h
  | shutdown => exact absurd rfl hx
  | _ => exact h

/-! ## The setup -/

theorem setup_withdraw (s : Supervisor) : s.withdraw.setup = s.setup := by
  unfold withdraw
  split <;> rfl

theorem setup_reconnect (s : Supervisor) : s.reconnect.setup = s.setup :=
  setup_withdraw (s.publish .unhealthy)

theorem setup_takeRequest (s : Supervisor) : s.takeRequest.setup = s.setup :=
  setup_reconnect _

theorem setup_rearm (s : Supervisor) : s.rearm.setup = s.setup := by
  unfold rearm rest
  split
  · split
    · exact setup_takeRequest _
    · rfl
  · rfl

theorem setup_conclude (s : Supervisor) (e : Option Error) : (s.conclude e).setup = s.setup := by
  unfold conclude
  dsimp only
  split <;> rfl

theorem setup_act (s : Supervisor) : s.act.setup = s.setup := by
  unfold act
  split
  · unfold check
    dsimp only
    split
    · rfl
    · exact setup_reconnect _
  · dsimp only
    split
    · rfl
    · exact (setup_rearm _).trans ((setup_conclude _ _).trans (setup_finishBuild _ _))
  · rfl
  · rfl

theorem setup_runTo (s : Supervisor) (limit : Nat) : (s.runTo limit).setup = s.setup := by
  fun_induction runTo s limit with
  | case1 s hd => rfl
  | case2 s due hd hle ih => exact ih.trans (setup_act s)
  | case3 s due hd hle => rfl

/-- No step changes what a supervisor was set up with. -/
theorem setup_perform (s : Supervisor) (x : Step) : (s.perform x).setup = s.setup := by
  cases x with
  | advance time => exact setup_runTo s _
  | reconnect times =>
    obtain ⟨pending, log, he⟩ := s.ask_eq times
    unfold perform
    dsimp only
    split
    · rfl
    · show (s.ask times).react.setup = s.setup
      rw [he]
      rw [react_eq]
      split
      · exact (setup_runTo _ _).trans (setup_takeRequest _)
      · rfl
  | shutdown =>
    unfold perform stop
    dsimp only
    split
    · rfl
    · split <;> rfl
  | _ => rfl

end Supervisor

/-! ## Starts -/

/-- A supervisor that comes up ends where it goes to work. -/
theorem comeUp_eq_enter {s : Supervisor} {key : Key} (h : (s.comeUp key).2 = .running) :
    ∃ t : Supervisor, t.setup = s.setup ∧ t.pending = s.pending ∧ (s.comeUp key).1 = t.enter := by
  have hs := s.setup_finishBuild key
  have hp := s.pending_finishBuild key
  unfold Supervisor.comeUp at *
  generalize s.finishBuild key = built at h hs hp ⊢
  obtain ⟨t, _ | e⟩ := built
  · exact ⟨t, hs, hp, rfl⟩
  · cases h

theorem start_eq_enter {l : Launch} (h : l.start.2 = .running) :
    ∃ t : Supervisor, t.setup = l.setup ∧ t.pending = false ∧ l.start.1 = t.enter := by
  unfold Launch.start Supervisor.start at *
  dsimp only at *
  generalize (Source.ofScript l.replies).obtain l.setup.retry l.now l.deadline = run at h ⊢
  cases hq : run.progress with
  | pursuing p =>
    simp only [hq] at h
    cases h
  | got key =>
    simp only [hq] at h ⊢
    exact comeUp_eq_enter h

theorem atWork_start {l : Launch} (h : l.start.2 = .running) : l.start.1.AtWork := by
  obtain ⟨s, -, hp, hs⟩ := start_eq_enter h
  rw [hs]
  unfold Supervisor.enter
  dsimp only
  split
  · rename_i deadline hd
    refine ⟨hp, ?_⟩
    rw [Supervisor.firstCheck_eq hd]
    exact Nat.le_refl _
  · rename_i hd
    exact hd

/-! ## Runs -/

/-- Behind a start that succeeds the supervisor is at work until it is shut down. -/
theorem atWork_run {l : Launch} (h : l.start.2 = .running) {steps : List Step}
    (hs : Step.shutdown ∉ steps) : (l.run steps).AtWork := by
  induction steps using List.reverseRecOn with
  | nil => exact atWork_start h
  | append_singleton steps x ih =>
    rw [List.mem_append, not_or, List.mem_singleton] at hs
    rw [run_concat]
    exact Supervisor.atWork_perform (Ne.symm hs.2) (ih hs.1)

theorem setup_run {l : Launch} (h : l.start.2 = .running) (steps : List Step) :
    (l.run steps).setup = l.setup := by
  induction steps using List.reverseRecOn with
  | nil =>
    obtain ⟨s, hl, -, hs⟩ := start_eq_enter h
    rw [run_nil, hs, ← hl]
    unfold Supervisor.enter
    dsimp only
    split <;> rfl
  | append_singleton steps x ih =>
    rw [run_concat, Supervisor.setup_perform]
    exact ih

theorem fits_run (l : Launch) (steps : List Step) : (l.run steps).Fits .wait :=
  (Moment.reaches_run l steps).fits (Moment.fits_first l)

theorem generation_run (l : Launch) (steps : List Step) :
    (l.run steps).generation = installs (l.run steps).history :=
  (Moment.reaches_run l steps).counts (Moment.counts_first l)

end Tether.Agent
