import Tether.Proofs.Supervisor.Holding
import Tether.Proofs.Supervisor.Schedule

/-!
The timer of a supervisor. It is set where the supervisor goes to work, and anew behind each
replacement, and the task crashes if the clock does not reach as far as the next check
(`Setup.firstCheck_ofSeconds`). So the record says whether the task has crashed: just when one of
its builds ended at a time from which the clock does not reach that far (`reckons_run`). A check that
passes sets the timer as well, and in the first half of the clock never to a time out of reach
(`seconds_lt_of_watching`). Behind its crash all that is published stays as it is, until the
supervisor is shut down (`halted_run`).
-/

namespace Tether.Agent

open Tether.Control Tether.Sim Tether.Time

/-! ## The first check -/

/-- The time of the first check is there just when the clock reaches that far. -/
theorem Setup.firstCheck_ofSeconds (setup : Setup) {n : Nat} (h : setup.interval = .ofSeconds n)
    (hn : n ≠ 0) (now : Nat) : setup.firstCheck? now =
      if now / 1000 + n < clockSeconds then some (.ofMillis now + .ofSeconds n) else none := by
  have hnanos : setup.interval.nanos = n * 1000000000 := by
    rw [h]
    rfl
  have hzero : setup.interval.isZero = false := by
    rw [Bool.eq_false_iff, ne_eq, Span.isZero_iff, hnanos]
    omega
  have hperiod : setup.period = .ofSeconds n := by
    rw [Setup.period, hnanos, Nat.max_eq_right (by omega)]
    rfl
  have hreach : (now * 1000000 + setup.interval.nanos) / 1000000000 = now / 1000 + n := by
    rw [hnanos]
    omega
  rw [firstCheck?, hzero, if_neg Bool.false_ne_true, hreach, hperiod]
  by_cases hlt : now / 1000 + n < clockSeconds
  · rw [if_pos hlt, if_neg (Nat.not_le_of_lt hlt)]
  · rw [if_neg hlt, if_pos (Nat.le_of_not_lt hlt)]

/-- A timer that can be set is set to a time that the clock holds. -/
theorem Setup.seconds_lt_of_firstCheck {setup : Setup} {now : Nat} {due : Span}
    (h : setup.firstCheck? now = some due) : due.seconds < clockSeconds := by
  have hdue := Supervisor.firstCheck_eq h
  unfold Setup.firstCheck? at h
  split at h
  · cases h
  · rename_i hi
    split at h
    · cases h
    · rename_i hc
      rw [hdue, period_eq (Bool.eq_false_iff.2 hi)]
      exact Nat.lt_of_not_le hc

/-! ## Builds that end too late -/

/-- A build on record ended at a time from which the clock does not reach the next check. -/
def Setup.Overruns (setup : Setup) (history : List (Nat × Event)) : Prop :=
  ∃ x ∈ history, x.2.concludes = true ∧ setup.firstCheck? x.1 = none

@[simp] theorem overruns_cons (setup : Setup) (time : Nat) (e : Event)
    (history : List (Nat × Event)) : setup.Overruns ((time, e) :: history) ↔
      e.concludes = true ∧ setup.firstCheck? time = none ∨ setup.Overruns history := by
  simp [Setup.Overruns]

namespace Supervisor

variable {s : Supervisor}

/-- The clock was overrun by what is on record. -/
def Overrun (s : Supervisor) : Prop := s.setup.Overruns s.history

/-- The build that ended just now is the first from whose end the clock may not reach the next
check. -/
def Concluded (s : Supervisor) : Prop := s.Overrun ↔ s.setup.firstCheck? s.now = none

/-- The task has crashed just when the record says so. -/
def Reckons (s : Supervisor) : Prop := s.isCrashed = true ↔ s.Overrun

theorem reckons_of_alive (hc : s.isCrashed = false) (ho : ¬ s.Overrun) : s.Reckons := by
  simp [Reckons, hc, ho]

/-- A replacement that is begun ends no build. -/
theorem overrun_reconnect (s : Supervisor) : s.reconnect.Overrun ↔ s.Overrun := by
  unfold Overrun
  rw [setup_reconnect]
  unfold reconnect withdraw
  cases hc : s.current with
  | none => simp [publish, note, hc, Event.concludes]
  | some id => simp [publish, publishSlot, closeSession, note, hc, Event.concludes]

theorem reckons_reconnect (h : ¬ s.Overrun) : s.reconnect.Reckons := by
  apply reckons_of_alive
  · simp [isCrashed]
  · rwa [overrun_reconnect]

theorem reckons_takeRequest (h : ¬ s.Overrun) : s.takeRequest.Reckons := by
  apply reckons_reconnect
  simpa [Overrun, tell, note, Event.concludes] using h

/-- A build with its key ends now, whatever it comes to. -/
theorem concluded_build (h : ¬ s.Overrun) (key : Key) :
    ((s.finishBuild key).1.conclude (s.finishBuild key).2).Concluded := by
  unfold Concluded finishBuild
  dsimp only
  unfold Overrun at *
  obtain ⟨net, cause | ⟨id, cause⟩ | ⟨id, listener⟩⟩ := build s.net s.setup.settings key
  · simp [settleBuild, Built.error?, conclude, publish, tell, note, Event.concludes, h]
  · simp [settleBuild, Built.error?, conclude, publish, tell, note, Event.concludes, h]
  · simp [settleBuild, Built.error?, install, conclude, publish, publishSlot, tell, note,
      Event.concludes, h]

/-- To set the timer crashes the task just when the clock does not reach the next check. -/
theorem reckons_rearm (h : s.Concluded) : s.rearm.Reckons := by
  unfold rearm
  split
  · rename_i deadline hf
    have hnot : ¬ s.Overrun := by
      intro ho
      rw [h.1 ho] at hf
      cases hf
    rw [rest_watching rfl]
    split
    · exact reckons_takeRequest hnot
    · exact reckons_of_alive rfl hnot
  · rename_i hf
    have ho : s.Overrun := h.2 hf
    exact ⟨fun _ => ho, fun _ => rfl⟩

theorem reckons_enter (h : s.Concluded) : s.enter.Reckons := by
  unfold enter
  dsimp only
  split
  · rename_i deadline hf
    have hf : s.setup.firstCheck? s.now = some deadline := hf
    apply reckons_of_alive rfl
    intro ho
    rw [h.1 ho] at hf
    cases hf
  · rename_i hf
    have ho : s.Overrun := h.2 hf
    exact ⟨fun _ => ho, fun _ => rfl⟩

/-- A check ends no build. -/
theorem reckons_check (h : ¬ s.Overrun) (deadline : Time.Span) : (s.check deadline).Reckons := by
  unfold check
  dsimp only
  split
  · apply reckons_of_alive rfl
    simpa [Overrun, publish, tell, note, Event.concludes] using h
  · apply reckons_reconnect
    simpa [Overrun, tell, note, Event.concludes] using h

theorem Reckons.not_overrun (h : s.Reckons) (hc : s.isCrashed = false) : ¬ s.Overrun := by
  intro ho
  rw [h.2 ho] at hc
  cases hc

theorem Reckons.act (h : s.Reckons) : s.act.Reckons := by
  cases hp : s.phase with
  | watching deadline =>
    have hnot := h.not_overrun (by simp [isCrashed, hp])
    rw [act_watching hp]
    exact reckons_check (s := { s with now := deadline.ticks }) hnot deadline
  | building p =>
    have hnot := h.not_overrun (by simp [isCrashed, hp])
    simp only [Supervisor.act, hp]
    split
    · exact reckons_of_alive rfl hnot
    · apply reckons_rearm
      apply concluded_build
      exact hnot
  | crashed => simpa only [Supervisor.act, hp] using h
  | stopped => simpa only [Supervisor.act, hp] using h

theorem Reckons.runTo (limit : Nat) (h : s.Reckons) : (s.runTo limit).Reckons := by
  fun_induction Supervisor.runTo s limit with
  | case1 s hd => exact h
  | case2 s due hd hle ih => exact ih h.act
  | case3 s due hd hle => exact h

/-- Every step but the last keeps to the record. -/
theorem Reckons.perform {x : Step} (hx : x ≠ .shutdown) (h : s.Reckons) :
    (s.perform x).Reckons := by
  cases x with
  | advance time => exact h.runTo (s.now + time)
  | reconnect times =>
    obtain ⟨pending, log, he⟩ := s.ask_eq times
    unfold Supervisor.perform
    dsimp only
    split
    · exact h
    · show (s.ask times).react.Reckons
      rw [he, react_eq]
      split
      · rename_i hc
        obtain ⟨⟨due, hp⟩, -⟩ := isCalled_iff.1 hc
        have hp : s.phase = .watching due := hp
        have hnot := h.not_overrun (by simp [isCrashed, hp])
        exact (reckons_takeRequest (s := { s with pending := pending, log := log }) hnot).runTo _
      · exact h
  | close session => simpa [Reckons, Overrun, Supervisor.perform, closeOutside, isCrashed, note,
      Event.concludes] using h
  | shutdown => exact absurd rfl hx
  | scriptHealth _ | failNextStarts _ | failListen _ => exact h

/-- Who comes up goes to work with the build that ended just now. -/
theorem reckons_comeUp (hs : ¬ s.Overrun) {key : Key} (h : (s.comeUp key).2 = .running) :
    (s.comeUp key).1.Reckons := by
  have hbuilt := concluded_build hs key
  unfold comeUp at *
  generalize s.finishBuild key = built at h hbuilt ⊢
  obtain ⟨t, _ | e⟩ := built
  · exact reckons_enter hbuilt
  · cases h

/-- Behind a crash no step but the last changes what is published. -/
theorem Halted.perform {s' : Supervisor} {x : Step} (hx : x ≠ .shutdown) (h : s.Halted s') :
    s.Halted (s'.perform x) := by
  have hs : s'.isStopped = false := by
    simp only [isStopped, phase_of_isCrashed h.crashed]
  cases x with
  | advance time => exact h.undergo (.pass time)
  | reconnect times =>
    simp only [Supervisor.perform, hs]
    exact h.undergo (.request times)
  | close session => exact h.undergo (.close session)
  | shutdown => exact absurd rfl hx
  | scriptHealth _ | failNextStarts _ | failListen _ => exact h.undergo (.change _)

end Supervisor

/-! ## Runs -/

theorem reckons_start {l : Launch} (h : l.start.2 = .running) : l.start.1.Reckons := by
  unfold Launch.start Supervisor.start at *
  dsimp only at *
  generalize (Source.ofScript l.replies).obtain l.setup.retry l.now l.deadline = run at h ⊢
  cases hq : run.progress with
  | pursuing p =>
    simp only [hq] at h
    cases h
  | got key =>
    simp only [hq] at h ⊢
    refine Supervisor.reckons_comeUp ?_ h
    simp [Supervisor.Overrun, Setup.Overruns, Supervisor.fresh, Supervisor.publish,
      Supervisor.note, Event.concludes]

/-- Behind a start that succeeds, and until it is shut down, the task of a supervisor has crashed
just when one of its builds ended at a time from which the clock does not reach the next check. -/
theorem reckons_run {l : Launch} (h : l.start.2 = .running) {steps : List Step}
    (hs : Step.shutdown ∉ steps) : (l.run steps).Reckons := by
  induction steps using List.reverseRecOn with
  | nil => exact reckons_start h
  | append_singleton steps x ih =>
    rw [List.mem_append, not_or, List.mem_singleton] at hs
    rw [run_concat]
    exact (ih hs.1).perform (Ne.symm hs.2)

/-- A check is due a period behind the end of a build on record, or a period behind a check that was
made by now. That one was not due in the first period, so the next is due within twice the time. -/
theorem nextCheck_cases {period due : Span} {now : Nat} {history : List (Nat × Event)}
    (hp : Punctual period history) (hn : ∀ x ∈ history, x.1 ≤ now)
    (h : nextCheck period history = some due) :
    (∃ x ∈ history, x.2.concludes = true ∧ due = .ofMillis x.1 + period) ∨
      due.nanos ≤ 2 * (now * 1000000) := by
  -- on the record: an event that ends a build begins a period, a check that passes another one
  induction history generalizing due with
  | nil => cases h
  | cons x history ih =>
    obtain ⟨time, e⟩ := x
    rw [List.forall_mem_cons] at hn
    have hkeep : nextCheck period history = some due →
        (∃ x ∈ (time, e) :: history, x.2.concludes = true ∧ due = .ofMillis x.1 + period) ∨
          due.nanos ≤ 2 * (now * 1000000) := by
      intro hd
      obtain ⟨x, hx, hends⟩ | hle := ih hp.2 hn.2 hd
      · exact .inl ⟨x, List.mem_cons_of_mem _ hx, hends⟩
      · exact .inr hle
    cases e with
    | failed => exact .inl ⟨_, List.mem_cons_self, rfl, (Option.some.inj h).symm⟩
    | slot slot =>
      cases slot with
      | some slot => exact .inl ⟨_, List.mem_cons_self, rfl, (Option.some.inj h).symm⟩
      | none => exact hkeep h
    | checked passed =>
      cases passed with
      | false => cases h
      | true =>
        obtain ⟨d, hd, rfl⟩ := Option.map_eq_some_iff.1 h
        obtain ⟨d', hd', htime, -⟩ := hp.1 true rfl
        obtain rfl : d = d' := Option.some.inj (hd.symm.trans hd')
        have hnow : d.ticks ≤ now := htime ▸ hn.1
        have hfirst : ∀ d, nextCheck period [] = some d → 0 + period.nanos ≤ d.nanos := nofun
        have hlong : 0 + period.nanos ≤ d.nanos :=
          period_le_nextCheck (fun _ _ => Nat.zero_le _) hfirst (by rwa [List.append_nil])
        right
        calc (d + period).nanos
          _ = d.nanos + period.nanos := Span.nanos_add d period
          _ ≤ d.ticks * 1000000 + d.ticks * 1000000 := by
            have := d.nanos_le_ticks
            omega
          _ ≤ 2 * (now * 1000000) := by omega
    | requested | begun => cases h
    | state _ | started _ | closed _ | closedOutside _ => exact hkeep h

/-- In the first half of the clock, and behind a start that succeeds, a supervisor waits for no check
that the clock does not reach. -/
theorem seconds_lt_of_watching {l : Launch} (h : l.start.2 = .running) {steps : List Step}
    (hs : Step.shutdown ∉ steps) {due : Span} (hp : (l.run steps).phase = .watching due)
    (hc : 2 * (l.run steps).now < clockSeconds * 1000) : due.seconds < clockSeconds := by
  have htimely := (Moment.reaches_run l steps).onTime (Moment.onTime_first l)
  have hnext : (l.run steps).next = some due := by
    have hexpects := htimely.expects
    simp only [Supervisor.Expects, hp] at hexpects
    exact hexpects.1
  have hdated := List.pairwise_cons.1 (htimely.dated (.inr (atWork_run h hs).not_stopped))
  have hpast : ∀ x ∈ (l.run steps).history, x.1 ≤ (l.run steps).now :=
    fun x hx => hdated.1 x.1 (List.mem_map_of_mem hx)
  obtain ⟨x, hx, hends, rfl⟩ | hle := nextCheck_cases htimely.punctual hpast hnext
  · -- the clock reached as far when that build ended, or the task had crashed
    have hreach : (l.run steps).setup.firstCheck? x.1 ≠ none := by
      intro hnone
      have hcrash := (reckons_run h hs).2 ⟨x, hx, hends, hnone⟩
      simp [Supervisor.isCrashed, hp] at hcrash
    obtain ⟨due, hdue⟩ := Option.ne_none_iff_exists'.1 hreach
    have hlt := Setup.seconds_lt_of_firstCheck hdue
    rwa [Supervisor.firstCheck_eq hdue] at hlt
  · unfold Span.seconds
    omega

/-- Behind its crash all that a supervisor published stays as it is until it is shut down. -/
theorem halted_run {l : Launch} {steps : List Step} (h : (l.run steps).isCrashed = true)
    {more : List Step} (hs : Step.shutdown ∉ more) :
    (l.run steps).Halted (l.run (steps ++ more)) := by
  induction more using List.reverseRecOn with
  | nil =>
    rw [List.append_nil]
    exact ⟨h, rfl, rfl, rfl⟩
  | append_singleton more x ih =>
    rw [List.mem_append, not_or, List.mem_singleton] at hs
    rw [← List.append_assoc, run_concat]
    exact (ih hs.1).perform (Ne.symm hs.2)

end Tether.Agent
