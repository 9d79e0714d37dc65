import Tether.Proofs.Supervisor.Stopping

/-!
The holder of a supervisor. What its holder does with it and what others do comes in any order
(`Use`), and the task may crash in the midst of it. The end of the task is reported to the first
wait that finds it, and how often it was asked for is counted (`Supervisor.reports`). The count says
it all: every use works as long as the end was not asked for twice (`Handle.runs_eq`), a shutdown
works behind them just when the end was not asked for at all, and then it closes the session in the
slot; a task that nobody crashes has no end to report as long as its timer can be set, so that its
holder can always shut it down (`Supervisor.reports_eq_zero`).
-/

namespace Tether.Agent

open Tether.Control Tether.Sim

/-- What happens while somebody holds a supervisor. -/
inductive Use
  /-- The holder looks at what is published, or subscribes to it. -/
  | look
  /-- The holder asks for another session, so many times in a row. -/
  | request (times : Nat)
  /-- The holder waits for the task, so many milliseconds long. -/
  | wait (time : Nat)
  /-- So many milliseconds pass. -/
  | pass (time : Nat)
  /-- The network changes. -/
  | change (f : Network → Network)
  /-- Someone else closes the session of a number. -/
  | close (session : Nat)
  /-- The task crashes, if it is at work. -/
  | crash

namespace Supervisor

/-- The task has crashed. -/
def isCrashed (s : Supervisor) : Bool :=
  match s.phase with
  | .crashed => true
  | _ => false

/-- What becomes of a supervisor. -/
def undergo (s : Supervisor) : Use → Supervisor
  | .look => s
  | .request times => s.requestTimes times
  | .wait time => if s.isCrashed then s else s.advance time
  | .pass time => s.advance time
  | .change f => s.onNet f
  | .close session => (s.closeOutside session).1
  | .crash => if s.isAlive then { s with phase := .crashed } else s

/-- The holder asks for the end of the task, and there is one to report. -/
def asksEnd (s : Supervisor) : Use → Bool
  | .wait _ => s.isCrashed
  | _ => false

/-- How often the end of the task is asked for. -/
def reports : Supervisor → List Use → Nat
  | _, [] => 0
  | s, u :: us => (s.asksEnd u).toNat + (s.undergo u).reports us

end Supervisor

namespace Handle

/-- A use of the handle, or of what is behind it. -/
def use (h : Handle) : Use → Option Handle
  | .wait time => (h.wait time).map Prod.fst
  | u => some { h with supervisor := h.supervisor.undergo u }

/-- One use behind the other. -/
def runs (h : Handle) (us : List Use) : Option Handle := us.foldlM Handle.use h

/-- A use works unless it asks for an end that was reported. -/
theorem use_eq (s : Supervisor) (reported : Bool) (u : Use) :
    use ⟨s, reported⟩ u = if s.asksEnd u && reported then none
      else some ⟨s.undergo u, reported || s.asksEnd u⟩ := by
  cases u with
  | wait time =>
    unfold use wait Supervisor.asksEnd Supervisor.undergo Supervisor.isCrashed
    cases s.phase <;> cases reported <;> rfl
  | _ => simp [use, Supervisor.asksEnd]

theorem runs_cons (s : Supervisor) (reported : Bool) (u : Use) (us : List Use) :
    runs ⟨s, reported⟩ (u :: us) = (if s.asksEnd u && reported then none
      else runs ⟨s.undergo u, reported || s.asksEnd u⟩ us) := by
  have hstep : runs ⟨s, reported⟩ (u :: us) =
      (use ⟨s, reported⟩ u).bind fun h => h.runs us := List.foldlM_cons
  rw [hstep, use_eq]
  split <;> rfl

/-- Behind the report of the end nothing works that asks for it again. -/
theorem runs_reported (s : Supervisor) (us : List Use) :
    runs ⟨s, true⟩ us = if s.reports us = 0 then some ⟨us.foldl Supervisor.undergo s, true⟩
      else none := by
  induction us generalizing s with
  | nil => rfl
  | cons u us ih =>
    rw [runs_cons, Supervisor.reports, List.foldl_cons]
    cases s.asksEnd u with
    | true => simp
    | false => simpa using ih (s.undergo u)

/-- Uses work one behind the other as long as the end is not asked for a second time. -/
theorem runs_eq (s : Supervisor) (us : List Use) :
    runs ⟨s, false⟩ us = if s.reports us ≤ 1
      then some ⟨us.foldl Supervisor.undergo s, decide (s.reports us = 1)⟩ else none := by
  induction us generalizing s with
  | nil => rfl
  | cons u us ih =>
    rw [runs_cons, Supervisor.reports, List.foldl_cons]
    cases s.asksEnd u with
    | true =>
      -- the end is reported here
      have hone : 1 + (s.undergo u).reports us ≤ 1 ↔ (s.undergo u).reports us = 0 := by omega
      rw [Bool.and_false, Bool.false_or, if_neg Bool.false_ne_true, runs_reported]
      simp only [Bool.toNat_true, hone, Nat.add_eq_left]
      split
      · rename_i hz
        simp [hz]
      · rfl
    | false => simpa using ih (s.undergo u)

end Handle

namespace Supervisor

/-! ## Tasks that nobody crashes -/

theorem phase_of_isCrashed {s : Supervisor} (h : s.isCrashed = true) : s.phase = .crashed := by
  unfold isCrashed at h
  split at h
  · assumption
  · cases h

/-- If the task has crashed, it was for want of a timer, which cannot be set now either. -/
def Untimed (s : Supervisor) : Prop := s.isCrashed = true → s.setup.firstCheck? s.now = none

theorem untimed_of_alive {s : Supervisor} (h : s.isCrashed = false) : s.Untimed := by
  intro hc
  rw [h] at hc
  cases hc

theorem AtWork.untimed {s : Supervisor} (h : s.AtWork) : s.Untimed := by
  intro hc
  rw [AtWork, phase_of_isCrashed hc] at h
  exact h

theorem Untimed.later {s : Supervisor} {time : Nat} (h : s.Untimed) (ht : s.now ≤ time) :
    Untimed { s with now := time } := by
  intro hc
  exact firstCheck_later (h hc) ht

/-- Only a timer that cannot be set crashes the task. -/
theorem Untimed.act {s : Supervisor} (h : s.Untimed) : s.act.Untimed := by
  cases hp : s.phase with
  | watching deadline =>
    apply untimed_of_alive
    rw [act_watching hp]
    unfold check
    dsimp only
    split
    · rfl
    · simp [isCrashed]
  | building p =>
    simp only [Supervisor.act, hp]
    split
    · exact untimed_of_alive rfl
    · exact (atWork_rearm _).untimed
  | crashed => simpa only [Supervisor.act, hp] using h
  | stopped => simpa only [Supervisor.act, hp] using h

theorem Untimed.runTo {s : Supervisor} (limit : Nat) (h : s.Untimed) : (s.runTo limit).Untimed := by
  fun_induction Supervisor.runTo s limit with
  | case1 s hd => exact h
  | case2 s due hd hle ih => exact ih h.act
  | case3 s due hd hle => exact h

theorem Untimed.advance {s : Supervisor} (time : Nat) (h : s.Untimed) :
    (s.advance time).Untimed :=
  (h.runTo (s.now + time)).later (now_runTo_le (Nat.le_add_right _ _))

/-- As long as nobody else crashes the task, it crashes only for want of a timer. -/
theorem Untimed.undergo {s : Supervisor} {u : Use} (hu : u ≠ .crash) (h : s.Untimed) :
    (s.undergo u).Untimed := by
  cases u with
  | look | change _ | close _ => exact h
  | request times =>
    obtain ⟨pending, log, he⟩ := s.ask_eq times
    show (s.ask times).react.Untimed
    rw [he, react_eq]
    split
    · apply Untimed.runTo
      apply untimed_of_alive
      simp [isCrashed, takeRequest]
    · exact h
  | wait time =>
    rw [Supervisor.undergo]
    split
    · exact h
    · exact h.advance time
  | pass time => exact h.advance time
  | crash => exact absurd rfl hu

theorem Untimed.undergoes {s : Supervisor} {us : List Use} (hu : .crash ∉ us) (h : s.Untimed) :
    (us.foldl Supervisor.undergo s).Untimed := by
  induction us generalizing s with
  | nil => exact h
  | cons u us ih =>
    rw [List.mem_cons, not_or] at hu
    exact ih hu.2 (h.undergo (Ne.symm hu.1))

/-! ## Tasks that have crashed -/

/-- What is published stays as it was when the task crashed. -/
structure Halted (s s' : Supervisor) : Prop where
  crashed : s'.isCrashed = true
  state : s'.state = s.state
  slot : s'.slot = s.slot
  generation : s'.generation = s.generation

theorem Halted.undergo {s s' : Supervisor} (h : s.Halted s') (u : Use) :
    s.Halted (s'.undergo u) := by
  have hp := phase_of_isCrashed h.crashed
  have hidle (limit : Nat) : s'.runTo limit = s' := runTo_idle (by rw [due?, hp])
  have hadvance (time : Nat) : s.Halted (s'.advance time) := by
    rw [advance, hidle]
    exact ⟨h.crashed, h.state, h.slot, h.generation⟩
  cases u with
  | look => exact h
  | request times =>
    obtain ⟨pending, log, he⟩ := s'.ask_eq times
    show s.Halted (s'.ask times).react
    rw [he, react, hp]
    exact ⟨rfl, h.state, h.slot, h.generation⟩
  | wait time =>
    rw [Supervisor.undergo, if_pos h.crashed]
    exact h
  | pass time => exact hadvance time
  | change f | close session => exact ⟨h.crashed, h.state, h.slot, h.generation⟩
  | crash =>
    have halive : s'.isAlive = false := by rw [isAlive, hp]
    rw [Supervisor.undergo, if_neg (by simp [halive])]
    exact h

theorem Halted.undergoes {s s' : Supervisor} (h : s.Halted s') (us : List Use) :
    s.Halted (us.foldl Supervisor.undergo s') := by
  induction us generalizing s' with
  | nil => exact h
  | cons u us ih => exact ih (h.undergo u)

/-- A task whose end was asked for has crashed. -/
theorem isCrashed_of_reports {s : Supervisor} {us : List Use} (h : s.reports us ≠ 0) :
    (us.foldl Supervisor.undergo s).isCrashed = true := by
  induction us generalizing s with
  | nil => exact absurd rfl h
  | cons u us ih =>
    rw [List.foldl_cons]
    cases ha : s.asksEnd u with
    | true =>
      have hc : s.isCrashed = true := by
        cases u with
        | wait _ => exact ha
        | _ => cases ha
      have hs : s.Halted s := ⟨hc, rfl, rfl, rfl⟩
      exact ((hs.undergo u).undergoes us).crashed
    | false =>
      rw [reports, ha, Bool.toNat_false, Nat.zero_add] at h
      exact ih h

/-- A task that nobody crashes has no end to report as long as its timer can be set. -/
theorem reports_eq_zero {s : Supervisor} {us : List Use} (hs : s.isCrashed = false)
    (hu : .crash ∉ us)
    (ht : (us.foldl undergo s).setup.firstCheck? (us.foldl undergo s).now ≠ none) :
    s.reports us = 0 := by
  by_contra hne
  exact ht ((untimed_of_alive hs).undergoes hu (isCrashed_of_reports hne))

/-- Whoever stops a supervisor closes the session in its slot. -/
theorem closed_stop {s : Supervisor} {slot : Slot} (h : s.slot = some slot) :
    s.stop.net.isOpen slot.session = false := by
  have hn : s.stop.net = (s.net.close slot.session).1 := by
    unfold stop
    rw [h]
    rfl
  rw [hn, Network.isOpen_close]
  simp

end Supervisor

/-! ## Starts -/

/-- Going to work changes nothing but what the supervisor waits for. -/
theorem enter_eq (s : Supervisor) :
    ∃ phase, s.enter = { s.tell (Supervisor.supervisingEntry s.setup) with phase := phase } := by
  unfold Supervisor.enter
  dsimp only
  split
  · exact ⟨_, rfl⟩
  · exact ⟨_, rfl⟩

/-- A supervisor that comes up has crashed just when it could not set its timer. -/
theorem isCrashed_start {l : Launch} (h : l.start.2 = .running) :
    l.start.1.isCrashed = true ↔ l.setup.firstCheck? l.start.1.now = none := by
  obtain ⟨s, hsetup, -, hs⟩ := start_eq_enter h
  obtain ⟨phase, he⟩ := enter_eq s
  have hnow : s.enter.now = s.now := by rw [he]; rfl
  rw [hs, hnow, ← hsetup]
  unfold Supervisor.enter
  dsimp only
  split
  · rename_i deadline hd
    have hd : s.setup.firstCheck? s.now = some deadline := hd
    simp [Supervisor.isCrashed, hd]
  · rename_i hd
    have hd : s.setup.firstCheck? s.now = none := hd
    simp [Supervisor.isCrashed, hd]

/-- A launch with nothing scripted and another setup. -/
def Launch.plainWith (setup : Setup) : Launch := { Launch.plain with setup := setup }

/-- It comes up at once with its first session, whatever the setup. -/
theorem start_plainWith (setup : Setup) :
    (Launch.plainWith setup).start.2 = .running ∧
      (Launch.plainWith setup).start.1.now = 0 ∧
      (Launch.plainWith setup).start.1.slot = some ⟨1, 1⟩ ∧
      (Launch.plainWith setup).start.1.net.isOpen 1 = true := by
  have hd : (Launch.plainWith setup).now +
      ((Source.ofScript (Launch.plainWith setup).replies).reply 1).delay ≤
      (Launch.plainWith setup).deadline := Nat.zero_le _
  have hstart : ∃ t : Supervisor, (Launch.plainWith setup).start = (t.enter, .running) ∧
      t.now = 0 ∧ t.slot = some ⟨1, 1⟩ ∧ t.net.isOpen 1 = true := by
    unfold Launch.start Supervisor.start
    dsimp only
    rw [Source.obtain_of_result rfl hd]
    exact ⟨_, rfl, rfl, rfl, rfl⟩
  obtain ⟨t, ht, hnow, hslot, hopen⟩ := hstart
  obtain ⟨phase, he⟩ := enter_eq t
  rw [ht, he]
  exact ⟨rfl, hnow, hslot, hopen⟩

/-! ## Shutdowns -/

/-- A shutdown works unless the end of the task was reported. -/
theorem Handle.shutdown_eq (h : Handle) : h.shutdown =
    if h.supervisor.isCrashed && h.reported then none else some h.supervisor.stop := by
  unfold Handle.shutdown Supervisor.isCrashed
  cases h.supervisor.phase <;> simp

/-- Whatever is done with a supervisor, in whatever state its task is, it works as long as the end
of the task was not asked for twice. A shutdown behind it works just when that end was not asked for
at all, as it is not where nobody crashes the task and its timer can be set; then the supervisor is
stopped, and the session that was in its slot is closed. -/
theorem Handle.shutdown_works_iff (s : Supervisor) (us : List Use) :
    let s' := us.foldl Supervisor.undergo s
    let ends := s.reports us
    runs ⟨s, false⟩ us = (if ends ≤ 1 then some ⟨s', decide (ends = 1)⟩ else none) ∧
    (runs ⟨s, false⟩ us).bind shutdown = (if ends = 0 then some s'.stop else none) ∧
    (ends ≠ 0 → s'.isCrashed = true) ∧
    (s.isCrashed = false → .crash ∉ us → s'.setup.firstCheck? s'.now ≠ none → ends = 0) ∧
    s'.stop.phase = .stopped ∧
    ∀ slot, s'.slot = some slot → s'.stop.net.isOpen slot.session = false := by
  intro s' ends
  have hruns := runs_eq s us
  have hcrashed : ends ≠ 0 → s'.isCrashed = true := Supervisor.isCrashed_of_reports
  refine ⟨hruns, ?_, hcrashed, Supervisor.reports_eq_zero, Supervisor.phase_stop s',
    fun _ => Supervisor.closed_stop⟩
  rw [hruns]
  by_cases hzero : ends = 0
  · have hle : ends ≤ 1 := by omega
    have hne : ends ≠ 1 := by omega
    rw [if_pos hle, if_pos hzero, Option.bind_some, shutdown_eq, decide_eq_false hne]
    simp [s']
  · rw [if_neg hzero]
    split
    · have hone : ends = 1 := by omega
      rw [Option.bind_some, shutdown_eq, decide_eq_true hone]
      simp [s', hcrashed hzero]
    · rfl

/-- A launch that cannot set its timer, since its interval is zero. -/
def Launch.timeless : Launch := .plainWith { Launch.plain.setup with interval := .ofSeconds 0 }

/-- It comes up with a session in its slot, and its task crashes. -/
theorem start_timeless : Launch.timeless.start.1.isCrashed = true ∧
    Launch.timeless.start.1.slot = some ⟨1, 1⟩ ∧
    Launch.timeless.start.1.net.isOpen 1 = true := by
  obtain ⟨hup, -, hslot, hopen⟩ :=
    start_plainWith { Launch.plain.setup with interval := .ofSeconds 0 }
  exact ⟨(isCrashed_start hup).2 rfl, hslot, hopen⟩

/-- Whoever only looks and asks for another session can still shut it down. -/
theorem Handle.shutdown_works_iff_looked :
    ∃ s', (runs ⟨Launch.timeless.start.1, false⟩ [.look, .request 2, .pass 7]).bind shutdown =
      some s' ∧ s'.phase = .stopped ∧ s'.net.isOpen 1 = false := by
  obtain ⟨hcrashed, hslot, -⟩ := start_timeless
  obtain ⟨-, hshutdown, -, -, hstopped, hclosed⟩ :=
    shutdown_works_iff Launch.timeless.start.1 [.look, .request 2, .pass 7]
  have hhalted : Launch.timeless.start.1.Halted Launch.timeless.start.1 :=
    ⟨hcrashed, rfl, rfl, rfl⟩
  have hstays := (hhalted.undergoes [.look, .request 2, .pass 7]).slot.trans hslot
  exact ⟨_, hshutdown, hstopped, hclosed _ hstays⟩

/-- Whoever was told of the end of the task cannot shut the supervisor down any more, and its
session stays open. -/
theorem Handle.shutdown_breaks :
    ∃ h, runs ⟨Launch.timeless.start.1, false⟩ [.wait 1] = some h ∧ h.shutdown = none ∧
      h.supervisor.slot = some ⟨1, 1⟩ ∧ h.supervisor.net.isOpen 1 = true := by
  obtain ⟨hcrashed, hslot, hopen⟩ := start_timeless
  refine ⟨⟨Launch.timeless.start.1, true⟩, ?_, ?_, hslot, hopen⟩
  · simp [runs_eq, Supervisor.reports, Supervisor.asksEnd, Supervisor.undergo, hcrashed]
  · simp [shutdown_eq, hcrashed]

end Tether.Agent
