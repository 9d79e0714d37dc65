import Tether.Proofs.Openness
import Tether.Proofs.Supervisor.Reach

/-!
What holds of a supervisor at each point of its work. The published state, the published slot, the
session it holds and its count of sessions are four cells that are written one after another; the
table `Supervisor.Fits` says, for each point between two writes, which of them agree. One lemma for
each atomic action leads from its row of the table to the next, so every moment within reach keeps
to the table: `Reaches.fits`. Beside it the count of sessions is tied to the record:
`Reaches.counts`.
-/

namespace Tether.Agent

open Tether.Control Tether.Overlay Tether.Sim

/-! ## Builds on record -/

/-- What a build on record came to so far. -/
inductive Attempt
  | underway
  | failed
  | installed
  deriving DecidableEq, Repr

/-- What an event says about a build. -/
def Event.attempt? : Event → Option Attempt
  | .begun => some .underway
  | .failed => some .failed
  | .slot (some _) => some .installed
  | _ => none

/-- What the latest build on record came to. -/
def latestAttempt (history : List (Nat × Event)) : Option Attempt :=
  history.findSome? (·.2.attempt?)

/-- The number of sessions on record that were installed. -/
def installs (history : List (Nat × Event)) : Nat :=
  history.countP (·.2.attempt? == some .installed)

@[simp] theorem latestAttempt_cons (t : Nat) (e : Event) (h : List (Nat × Event)) :
    latestAttempt ((t, e) :: h) = e.attempt?.or (latestAttempt h) := by
  unfold latestAttempt
  rw [List.findSome?_cons]
  cases e.attempt? <;> rfl

@[simp] theorem installs_cons (t : Nat) (e : Event) (h : List (Nat × Event)) :
    installs ((t, e) :: h) = installs h + if e.attempt? = some .installed then 1 else 0 := by
  simp [installs, List.countP_cons]

/-- A build that had its key came to an end: its session was installed, or it failed. -/
def Event.concludes : Event → Bool
  | .slot (some _) | .failed => true
  | _ => false

/-- The number of builds on record that had their key and came to an end. -/
def conclusions (history : List (Nat × Event)) : Nat := history.countP (·.2.concludes)

@[simp] theorem conclusions_cons (t : Nat) (e : Event) (h : List (Nat × Event)) :
    conclusions ((t, e) :: h) = conclusions h + if e.concludes then 1 else 0 := by
  simp [conclusions, List.countP_cons]

/-- The sessions that were counted and are not published yet. -/
def Duty.unpublished : Duty → Nat
  | .publish _ => 1
  | _ => 0

theorem Duty.unpublished_of_opens {duty : Duty} (h : duty.opens = true) : duty.unpublished = 0 := by
  cases duty <;> first | rfl | cases h

namespace Supervisor

/-! ## The table -/

/-- The slot shows the session of a number, which the supervisor holds and which started last. -/
def Shows (s : Supervisor) (id : Nat) : Prop :=
  s.slot = some ⟨s.generation, id⟩ ∧ s.current = some id ∧ id = s.net.sessions.length

/-- The slot is empty, and the supervisor holds no session. -/
def Bare (s : Supervisor) : Prop := s.slot = none ∧ s.current = none

/-- The session that was built last is in service. -/
def InService (s : Supervisor) : Prop :=
  s.state = .connected ∧ latestAttempt s.history = some .installed ∧ ∃ id, s.Shows id

/-- The last build failed. -/
def OutOfService (s : Supervisor) : Prop :=
  s.state = .unhealthy ∧ latestAttempt s.history = some .failed ∧ s.Bare

/-- A build is under way. -/
def Underway (s : Supervisor) : Prop :=
  s.state = .connecting ∧ latestAttempt s.history = some .underway ∧ s.Bare

/-- The last build is over. -/
def Poised (s : Supervisor) : Prop := s.InService ∨ s.OutOfService

/-- What holds of a supervisor at each point of its work. -/
def Fits (s : Supervisor) : Duty → Prop
  | .wait | .rest =>
    match s.phase with
    | .watching _ | .crashed => s.Poised
    | .building _ => s.Underway
    | .stopped => s.Bare ∨ ∃ id, s.Shows id
  | .check _ | .fall | .rearm => s.Poised
  | .pass _ | .conclude none => s.InService
  | .withdraw => s.Bare ∨ ∃ id, s.Shows id
  | .close id => s.Bare ∧ id = s.net.sessions.length
  | .announce => s.Bare
  | .ask => s.state = .connecting ∧ s.Bare
  | .start _ | .conclude (some _) => s.Underway
  | .equip id | .listen id | .discard id _ | .hold id =>
    s.Underway ∧ id = s.net.sessions.length
  | .publish id => s.slot = none ∧ s.current = some id ∧ id = s.net.sessions.length
  | .confirm => latestAttempt s.history = some .installed ∧ ∃ id, s.Shows id

theorem Poised.bare_or_shows {s : Supervisor} (h : s.Poised) : s.Bare ∨ ∃ id, s.Shows id := by
  obtain ⟨-, -, h⟩ | ⟨-, -, h⟩ := h
  · exact Or.inr h
  · exact Or.inl h

/-- A check that passes was made of a session. -/
theorem isOk_checkHealth {net : Network} {current : Option Nat}
    (h : (checkHealth net current).2.isOk = true) : ∃ id, current = some id := by
  cases current with
  | none => simp [checkHealth, Except.isOk, Except.toBool] at h
  | some id => exact ⟨id, rfl⟩

end Supervisor

namespace Moment

/-! ## Atomic actions keep to the table -/

theorem fits_check {first : Bool} {deadline : Time.Span} {s : Supervisor}
    (h : s.Fits (.check deadline)) :
    (work ⟨first, .check deadline, s⟩).supervisor.Fits
      (work ⟨first, .check deadline, s⟩).duty := by
  simp only [Supervisor.Fits] at h
  by_cases hc : (checkHealth s.net s.current).2.isOk = true
  · obtain ⟨id, hid⟩ := Supervisor.isOk_checkHealth hc
    simp only [work, hc, if_true]
    -- there was a session to ask, so the last build did not fail
    obtain h | ⟨-, -, -, hn⟩ := h
    · simpa [Supervisor.Fits, Supervisor.InService, Supervisor.Shows, Supervisor.tell,
        Supervisor.note, Event.attempt?] using h
    · rw [hn] at hid
      cases hid
  · simp only [work, hc]
    simpa [Supervisor.Fits, Supervisor.Poised, Supervisor.InService, Supervisor.OutOfService,
      Supervisor.Bare, Supervisor.Shows, Supervisor.tell, Supervisor.note, Event.attempt?] using h

theorem fits_start {first : Bool} {key : Key} {s : Supervisor} (h : s.Fits (.start key)) :
    (work ⟨first, .start key, s⟩).supervisor.Fits (work ⟨first, .start key, s⟩).duty := by
  simp only [work]
  have hs := s.net.start_cases (s.setup.settings.options key)
  generalize s.net.start (s.setup.settings.options key) = r at hs ⊢
  obtain ⟨net, r⟩ := r
  obtain ⟨cause, hr, hn⟩ | ⟨hr, hn⟩ := hs
  · simp only at hr
    subst hr
    exact h
  · simp only at hr hn
    subst hr
    refine ⟨?_, ?_⟩
    · simpa [Supervisor.Fits, Supervisor.Underway, Supervisor.Bare, Supervisor.note,
        Event.attempt?] using h
    · simp [Supervisor.note, hn]

theorem fits_listen {first : Bool} {id : Nat} {s : Supervisor} (h : s.Fits (.listen id)) :
    (work ⟨first, .listen id, s⟩).supervisor.Fits (work ⟨first, .listen id, s⟩).duty := by
  simp only [work]
  have hn := s.net.length_listen id s.setup.settings.livenessPort
  generalize s.net.listen id s.setup.settings.livenessPort = r at hn ⊢
  obtain ⟨net, _ | listener⟩ := r
  · exact ⟨h.1, h.2.trans hn.symm⟩
  · exact ⟨h.1, h.2.trans hn.symm⟩

theorem fits_conclude {first : Bool} {e : Option Error} {s : Supervisor}
    (h : s.Fits (.conclude e)) :
    (work ⟨first, .conclude e, s⟩).supervisor.Fits (work ⟨first, .conclude e, s⟩).duty := by
  cases first with
  | false =>
    simp only [work]
    cases e with
    | none => exact Or.inl h
    | some e =>
      refine Or.inr ⟨rfl, ?_, h.2.2⟩
      simp [Supervisor.conclude, Supervisor.publish, Supervisor.note, Event.attempt?]
  | true =>
    cases e with
    | none =>
      simp only [work, Supervisor.enter]
      split
      · exact Or.inl h
      · exact Or.inl h
    | some e => exact Or.inl h.2.2

theorem fits_rearm {first : Bool} {s : Supervisor} (h : s.Fits .rearm) :
    (work ⟨first, .rearm, s⟩).supervisor.Fits (work ⟨first, .rearm, s⟩).duty := by
  simp only [work]
  split
  · exact h
  · exact h

theorem fits_rest {first : Bool} {s : Supervisor} (h : s.Fits .rest) :
    (work ⟨first, .rest, s⟩).supervisor.Fits (work ⟨first, .rest, s⟩).duty := by
  simp only [work]
  split
  · rename_i hc
    obtain ⟨⟨due, hp⟩, -⟩ := Supervisor.isCalled_iff.1 hc
    simp only [Supervisor.Fits, hp] at h
    obtain h | h := h
    · exact Or.inl h
    · exact Or.inr h
  · exact h

/-- Every atomic action leads from what holds at its point to what holds at the next. -/
theorem fits_work {m : Moment} (h : m.supervisor.Fits m.duty) :
    m.work.supervisor.Fits m.work.duty := by
  obtain ⟨first, duty, s⟩ := m
  cases duty with
  | wait => exact h
  | check => exact fits_check h
  | pass =>
    obtain ⟨-, ha, hs⟩ := h
    exact Or.inl ⟨rfl, ha, hs⟩
  | fall =>
    change s.Poised at h
    exact h.bare_or_shows
  | withdraw =>
    change s.Bare ∨ ∃ id, s.Shows id at h
    simp only [work]
    obtain ⟨hn, hc⟩ | ⟨id, hs, hc, hl⟩ := h
    · simp only [hc]
      exact ⟨hn, hc⟩
    · simp only [hc]
      exact ⟨⟨rfl, rfl⟩, hl⟩
  | close id => exact h.1
  | announce => exact ⟨rfl, h⟩
  | ask => exact ⟨h.1, rfl, h.2⟩
  | start key => exact fits_start h
  | equip id => exact ⟨h.1, h.2.trans (Network.length_setFallback _ _ _).symm⟩
  | listen id => exact fits_listen h
  | discard id cause => exact h.1
  | hold id => exact ⟨h.1.2.2.1, rfl, h.2⟩
  | publish id => exact ⟨rfl, id, rfl, h.2⟩
  | confirm => exact ⟨rfl, h.1, h.2⟩
  | conclude e => exact fits_conclude h
  | rearm => exact fits_rearm h
  | rest => exact fits_rest h

/-! ## Waits and events from outside keep to the table -/

/-- A supervisor that waits shows the session it holds, or holds none. -/
theorem bare_or_shows_of_wait {s : Supervisor} (h : s.Fits .wait) : s.Bare ∨ ∃ id, s.Shows id := by
  simp only [Supervisor.Fits] at h
  split at h
  · exact h.bare_or_shows
  · exact h.bare_or_shows
  · exact Or.inl h.2.2
  · exact h

theorem fits_close {s : Supervisor} (id : Nat) (h : s.Fits .wait) :
    (s.closeOutside id).1.Fits .wait := by
  simp only [Supervisor.Fits, Supervisor.closeOutside, Supervisor.note, Supervisor.Poised,
    Supervisor.InService, Supervisor.OutOfService, Supervisor.Underway, Supervisor.Bare,
    Supervisor.Shows, Network.length_close] at h ⊢
  exact h

theorem fits_stop {s : Supervisor} (h : s.Fits .wait) : s.stop.Fits .wait := by
  have hb := bare_or_shows_of_wait h
  unfold Supervisor.stop
  dsimp only
  split
  · exact hb
  · simp only [Supervisor.Fits, Supervisor.closeSession, Supervisor.note, Supervisor.Bare,
      Supervisor.Shows, Network.length_close] at hb ⊢
    exact hb

theorem Next.fits {m m' : Moment} (hn : Next m m') (h : m.supervisor.Fits m.duty) :
    m'.supervisor.Fits m'.duty := by
  cases hn with
  | work => exact fits_work h
  | check hp | pursue hp _ | key hp _ =>
    -- the row of a supervisor that waits is the one of what it waits for
    simp only [Supervisor.Fits, hp] at h
    exact h
  | abandon s time => exact bare_or_shows_of_wait (s := s) h
  | request times _ =>
    obtain ⟨pending, log, he⟩ := Supervisor.ask_eq _ times
    rw [he]
    exact h
  | close s session => exact fits_close session h
  | shutdown _ => exact fits_stop h
  | pass _ _ | refault _ _ _ _ => exact h

/-- What holds at each point of the work holds at every moment within reach. -/
theorem Reaches.fits {m₀ m : Moment} (h₀ : m₀.supervisor.Fits m₀.duty) (h : Reaches m₀ m) :
    m.supervisor.Fits m.duty :=
  h.keeps (P := fun m => m.supervisor.Fits m.duty) (fun _ hn => hn.fits) h₀

theorem fits_first (l : Launch) : l.first.supervisor.Fits l.first.duty := ⟨rfl, rfl⟩

/-! ## The count -/

/-- The number of sessions installed is the number of those published. -/
def Counts (m : Moment) : Prop :=
  m.supervisor.generation = installs m.supervisor.history + m.duty.unpublished

@[simp] theorem generation_enter (s : Supervisor) : s.enter.generation = s.generation := by
  unfold Supervisor.enter
  dsimp only
  split <;> rfl

@[simp] theorem history_enter (s : Supervisor) : s.enter.history = s.history := by
  unfold Supervisor.enter
  dsimp only
  split <;> rfl

theorem counts_work {m : Moment} (h : m.Counts) : m.work.Counts := by
  obtain ⟨first, duty, s⟩ := m
  unfold Counts at *
  -- `hold` counts a session and `publish` puts it on record; between them it is unpublished
  cases duty with
  | wait => exact h
  | check =>
    simp only [work]
    split <;> simpa [Duty.unpublished, Supervisor.tell, Supervisor.note, Event.attempt?] using h
  | withdraw =>
    simp only [work]
    split <;>
      simpa [Duty.unpublished, Supervisor.publishSlot, Supervisor.note, Event.attempt?] using h
  | start key =>
    simp only [work]
    split <;> simpa [Duty.unpublished, Supervisor.note, Event.attempt?] using h
  | listen id =>
    simp only [work]
    split <;> simpa [Duty.unpublished, Supervisor.tell] using h
  | conclude e =>
    cases first <;> cases e <;>
      simpa [work, Duty.unpublished, Supervisor.conclude, Supervisor.publish, Supervisor.tell,
        Supervisor.note, Event.attempt?] using h
  | rearm =>
    simp only [work]
    split <;> exact h
  | rest =>
    simp only [work]
    split <;> simpa [Duty.unpublished, Supervisor.tell, Supervisor.note, Event.attempt?] using h
  | _ =>
    simpa [work, Duty.unpublished, Supervisor.closeSession, Supervisor.publish,
      Supervisor.publishSlot, Supervisor.tell, Supervisor.note, Event.attempt?] using h

/-- The count of sessions is the number of those on record that were installed. -/
theorem Reaches.counts {m₀ m : Moment} (h₀ : m₀.Counts) (h : Reaches m₀ m) : m.Counts := by
  refine h.keeps (fun _ hn hc => ?_) h₀
  obtain rfl | hi := hn.quiet
  · exact counts_work hc
  · unfold Counts installs at *
    rw [hi.generation, hi.countP_eq (p := (·.attempt? == some .installed)) (by simp [Event.attempt?]),
      hc, hi.duty, Duty.unpublished_of_opens hi.opens]
    rfl

theorem counts_first (l : Launch) : l.first.Counts := rfl

end Moment

end Tether.Agent
