import Tether.Proofs.Supervisor.Standing

/-!
One session at a time. A session is closed before its successor is started, whatever fails on the
way, so no two sessions are ever open: not between two atomic actions of the supervisor, not while
a build is stuck, not behind a session that was started and could not be listened on. At a settled
point the one that may be open is the one in the published slot: `single_open_session`.
-/

namespace Tether.Agent

open Tether.Control Tether.Overlay Tether.Sim

/-- The one session that may be open at a point of the work: while it is built or withdrawn the one
at hand, and else the one that the supervisor holds. -/
def Duty.session? (s : Supervisor) : Duty → Option Nat
  | .close id | .equip id | .listen id | .discard id _ | .hold id => some id
  | _ => s.current

namespace Moment

/-- No session is open but, at most, the one that may be. -/
def Single (m : Moment) : Prop := m.supervisor.net.OnlyOpen (m.duty.session? m.supervisor)

/-! ## Atomic actions -/

theorem single_check {first : Bool} {deadline : Time.Span} {s : Supervisor}
    (h : s.net.OnlyOpen s.current) : (work ⟨first, .check deadline, s⟩).Single := by
  have hn : (checkHealth s.net s.current).1.OnlyOpen s.current :=
    h.congr (Network.sessions_checkHealth _ _)
  simp only [work]
  split
  · exact hn
  · exact hn

/-- A start opens the session that comes next, behind one that is closed already. -/
theorem single_start {first : Bool} {key : Key} {s : Supervisor} (hc : s.current = none)
    (h : s.net.OnlyOpen s.current) : (work ⟨first, .start key, s⟩).Single := by
  rw [hc] at h
  have hs := s.net.start_cases (s.setup.settings.options key)
  simp only [work]
  generalize s.net.start (s.setup.settings.options key) = r at hs ⊢
  obtain ⟨net, r⟩ := r
  obtain ⟨cause, hr, hn⟩ | ⟨hr, hn⟩ := hs
  · simp only at hr hn
    subst hr
    have ho : net.OnlyOpen none := h.congr hn
    show net.OnlyOpen s.current
    rwa [hc]
  · simp only at hr hn
    subst hr
    -- nothing was open before, so only the new session can be
    intro id hid
    change net.isOpen id = true at hid
    rw [Network.isOpen_append hn] at hid
    split at hid
    · rename_i he
      exact congrArg some he.symm
    · cases h id hid

theorem single_listen {first : Bool} {id : Nat} {s : Supervisor} (h : s.net.OnlyOpen (some id)) :
    (work ⟨first, .listen id, s⟩).Single := by
  have ho : (s.net.listen id s.setup.settings.livenessPort).1.OnlyOpen (some id) := by
    intro j hj
    rw [Network.isOpen_listen] at hj
    exact h j hj
  simp only [work]
  generalize s.net.listen id s.setup.settings.livenessPort = r at ho ⊢
  obtain ⟨net, _ | listener⟩ := r
  · exact ho
  · exact ho

theorem single_work {m : Moment} (hf : m.supervisor.Fits m.duty) (h : m.Single) :
    m.work.Single := by
  obtain ⟨first, duty, s⟩ := m
  cases duty with
  | wait => exact h
  | check => exact single_check h
  | withdraw =>
    change s.net.OnlyOpen s.current at h
    simp only [work]
    split
    · exact h
    · rename_i id hc
      rwa [hc] at h
  | close id => exact h.close_self s.current
  | start key => exact single_start hf.2.2.2 h
  | equip id =>
    intro j hj
    change (s.net.setFallback id .relay).isOpen j = true at hj
    rw [Network.isOpen_setFallback] at hj
    exact h j hj
  | listen id => exact single_listen h
  | discard id cause => exact h.close_self s.current
  | conclude e =>
    change s.net.OnlyOpen s.current at h
    cases first with
    | false =>
      simp only [work, Supervisor.conclude]
      split
      · exact h
      · exact h
    | true =>
      cases e with
      | none =>
        simp only [work, Supervisor.enter]
        split
        · exact h
        · exact h
      | some e => exact h
  | rearm | rest =>
    simp only [work]
    split
    · exact h
    · exact h
  | _ => exact h

/-! ## Runs -/

theorem single_stop {s : Supervisor} (h : s.net.OnlyOpen s.current) :
    s.stop.net.OnlyOpen s.stop.current := by
  unfold Supervisor.stop
  dsimp only
  split
  · exact h
  · exact h.close _

theorem Next.single {m m' : Moment} (hn : Next m m') (hf : m.supervisor.Fits m.duty)
    (h : m.Single) : m'.Single := by
  cases hn with
  | work => exact single_work hf h
  | request times _ =>
    obtain ⟨pending, log, he⟩ := Supervisor.ask_eq _ times
    rw [he]
    exact h
  | close s session => exact Network.OnlyOpen.close h session
  | shutdown _ => exact single_stop h
  | check _ | pursue _ _ | key _ _ | abandon _ _ | pass _ _ | refault _ _ _ _ => exact h

/-- No two sessions are open at any moment within reach. -/
theorem Reaches.single {m₀ m : Moment} (hf : m₀.supervisor.Fits m₀.duty) (h₀ : m₀.Single)
    (h : Reaches m₀ m) : m.Single :=
  h.keeps (fun hr hn => hn.single (hr.fits hf)) h₀

theorem single_first (l : Launch) : l.first.Single := by
  intro id hid
  change l.net.isOpen id = true at hid
  cases id with
  | zero => cases hid
  | succ i => simp [Launch.net, Network.isOpen, Network.session?] at hid

end Moment

/-- At every moment of a launch, between any two atomic actions, at most one of the sessions ever
started is open. The supervisor behind every run is such a moment, and there every session but the
one in the published slot is closed. -/
theorem single_open_session (l : Launch) :
    (∀ m, Moment.Reaches l.first m → m.supervisor.net.openCount ≤ 1) ∧
    ∀ steps, Moment.Reaches l.first ⟨false, .wait, l.run steps⟩ ∧
      ∀ id, (l.run steps).net.isOpen id = true → (l.run steps).slot.map Slot.session = some id := by
  refine ⟨?_, ?_⟩
  · intro m h
    exact (h.single (Moment.fits_first l) (Moment.single_first l)).openCount_le_one
  · intro steps
    have hr := Moment.reaches_run l steps
    refine ⟨hr, ?_⟩
    intro id hid
    have hc : (l.run steps).current = some id :=
      hr.single (Moment.fits_first l) (Moment.single_first l) id hid
    obtain ⟨-, hn⟩ | ⟨j, hs, hj, -⟩ :=
      Moment.bare_or_shows_of_wait (hr.fits (Moment.fits_first l))
    · rw [hn] at hc
      cases hc
    · rw [hj] at hc
      rw [hs]
      exact hc

/-- Between its start and its publication the first session of a plain launch is open already; it
is the only one, there and when it was closed by someone else. -/
theorem single_open_session_plain :
    let m := Launch.plain.first.work.work.wake.work
    m.supervisor.slot = none ∧ m.supervisor.net.isOpen 1 = true ∧
      m.supervisor.net.openCount ≤ 1 ∧ (Launch.plain.run [.close 1]).net.openCount ≤ 1 :=
  have h := single_open_session .plain
  ⟨rfl, rfl, h.1 _ (Moment.Reaches.refl.work.work.wake rfl).work, h.1 _ (h.2 [.close 1]).1⟩

end Tether.Agent
