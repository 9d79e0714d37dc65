import Tether.Proofs.Supervisor.Settled

/-!
What the holder of a supervisor can rely on whenever everything waits. The published state says
what is in the published slot and what became of the last build, the count of sessions is the
number of sessions installed, and a slot that is not empty shows the session that the supervisor
itself holds, which is the one that was started last: `handle_consistent`.
-/

namespace Tether.Agent

open Tether.Sim

/-- At work and waiting, a supervisor builds a session, or its last build is over. -/
theorem underway_or_poised {s : Supervisor} (h : s.Fits .wait) (hs : s.isStopped = false) :
    (s.Underway ∧ ∃ p, s.phase = .building p) ∨ (s.Poised ∧ ∀ p, s.phase ≠ .building p) := by
  unfold Supervisor.isStopped at hs
  simp only [Supervisor.Fits] at h
  cases hp : s.phase with
  | watching due =>
    simp only [hp] at h
    exact Or.inr ⟨h, fun p he => Phase.noConfusion he⟩
  | building p =>
    simp only [hp] at h
    exact Or.inl ⟨h, p, rfl⟩
  | crashed =>
    simp only [hp] at h
    exact Or.inr ⟨h, fun p he => Phase.noConfusion he⟩
  | stopped => simp [hp] at hs

/-- Behind a successful start and before it is shut down, at every settled point: the state is
connected exactly when the slot is not empty, connecting exactly when a build waits for its key,
and unhealthy exactly when the latest build failed; the generation counts the sessions installed;
and the slot, if it is not empty, shows that generation, the session that the supervisor holds, and
the session that was started last. -/
theorem handle_consistent (l : Launch) (steps : List Step) (hl : l.start.2 = .running)
    (hs : Step.shutdown ∉ steps) :
    let s := l.run steps
    (s.state = .connected ∨ s.state = .connecting ∨ s.state = .unhealthy) ∧
    (s.state = .connected ↔ s.slot ≠ none) ∧
    (s.state = .connecting ↔ ∃ p, s.phase = .building p) ∧
    (s.state = .unhealthy ↔ latestAttempt s.history = some .failed) ∧
    s.generation = installs s.history ∧
    ∀ slot, s.slot = some slot → slot.generation = s.generation ∧
      s.current = some slot.session ∧ slot.session = s.net.sessions.length := by
  intro s
  have hc := generation_run l steps
  obtain ⟨⟨hst, hat, hn, -⟩, hp⟩ | ⟨⟨hst, hat, id, hsl, hcu, hid⟩ | ⟨hst, hat, hn, -⟩, hp⟩ :=
    underway_or_poised (fits_run l steps) (atWork_run hl hs).not_stopped
  · -- a build waits for its key
    refine ⟨Or.inr (Or.inl hst), ?_, ?_, ?_, hc, ?_⟩
    · simp [s, hst, hn]
    · simpa [s, hst] using hp
    · simp [s, hst, hat]
    · intro slot h
      simp [s, hn] at h
  · -- a session is in service
    refine ⟨Or.inl hst, ?_, ?_, ?_, hc, ?_⟩
    · simp [s, hst, hsl]
    · simpa [s, hst] using hp
    · simp [s, hst, hat]
    · intro slot h
      rw [show s.slot = _ from hsl, Option.some.injEq] at h
      subst h
      exact ⟨rfl, hcu, hid⟩
  · -- the last build failed
    refine ⟨Or.inr (Or.inr hst), ?_, ?_, ?_, hc, ?_⟩
    · simp [s, hst, hn]
    · simpa [s, hst] using hp
    · simp [s, hst, hat]
    · intro slot h
      simp [s, hn] at h

theorem handle_consistent_plain :
    let s := Launch.plain.run [.failListen true, .close 1, .advance 5000, .reconnect 2]
    Launch.plain.start.2 = .running ∧ (s.state = .connected ↔ s.slot ≠ none) ∧
      (s.state = .unhealthy ↔ latestAttempt s.history = some .failed) :=
  have h := handle_consistent .plain [.failListen true, .close 1, .advance 5000, .reconnect 2]
    running_plain (by decide)
  ⟨running_plain, h.2.1, h.2.2.2.1⟩

end Tether.Agent
