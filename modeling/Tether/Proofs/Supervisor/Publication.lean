import Tether.Proofs.Supervisor.Settled
import Tether.Proofs.Supervisor.Shape

/-!
The order of what a supervisor publishes. The table `Supervisor.Tells` says, for each point between
two atomic actions, which part of a block has been shown there; every action leads from its row to
the next, so at a settled point the record is a row of whole blocks, or ends with a replacement
whose build still waits for its key. `publication_order` puts this together with what is known about
every such row, and adds the one close that a shutdown makes behind it.
-/

namespace Tether.Agent

open Tether.Control Tether.Overlay Tether.Sim

/-- What is shown before a build is announced: nothing before the first one, and else some blocks
and the session that is withdrawn. -/
inductive Lead : Bool → Nat → List Event → Prop
  | first : Lead true 0 []
  | later {shown : List Event} {generation : Nat} {session : Option Nat} :
      Shape shown generation session →
      Lead false generation (shown ++ .state .unhealthy :: withdrawn session)

theorem Lead.built {first : Bool} {generation : Nat} {shown : List Event} (id : Nat)
    (h : Lead first generation shown) :
    Shape (shown ++ .state .connecting :: installed (generation + 1) id) (generation + 1)
      (some id) := by
  cases h with
  | first => exact .opening id
  | later hs => simpa [beginning] using hs.replaced id

theorem Lead.failed {generation : Nat} {shown : List Event} (half : Option Nat)
    (h : Lead false generation shown) :
    Shape (shown ++ .state .connecting :: (halfBuilt half ++ [.state .unhealthy])) generation
      none := by
  cases h with
  | later hs => simpa [beginning] using hs.failed half

namespace Supervisor

theorem shown_note (s : Supervisor) {e : Event} (h : e.shows = true) :
    shown (s.note e).history = shown s.history ++ [e] := by
  unfold note
  rw [shown_cons, if_pos h]

theorem shown_note_hidden (s : Supervisor) {e : Event} (h : e.shows = false) :
    shown (s.note e).history = shown s.history := by
  unfold note
  rw [shown_cons, if_neg (by rw [h]; decide), List.append_nil]

theorem shown_publish (s : Supervisor) (state : State) :
    shown (s.publish state).history = shown s.history ++ [.state state] := shown_note _ rfl

theorem shown_publishSlot (s : Supervisor) (slot : Option Slot) :
    shown (s.publishSlot slot).history = shown s.history ++ [.slot slot] := shown_note _ rfl

theorem shown_closeSession (s : Supervisor) (id : Nat) (entry : Overlay.Error → Entry) :
    shown (s.closeSession id (.closed id) entry).history = shown s.history ++ [.closed id] :=
  shown_note _ rfl

/-- Whole blocks were shown, and the session that is held is in service. -/
def Whole (s : Supervisor) : Prop := Shape (shown s.history) s.generation s.current

/-- A build is under way that has shown some events behind its announcement. -/
def Amid (s : Supervisor) (first : Bool) (generation : Nat) (events : List Event) : Prop :=
  ∃ before, Lead first generation before ∧
    shown s.history = before ++ .state .connecting :: events

theorem Whole.hide {s : Supervisor} {e : Event} (h : s.Whole) (he : e.shows = false) :
    (s.note e).Whole := by
  unfold Whole
  rw [shown_note_hidden s he]
  exact h

theorem Amid.hide {s : Supervisor} {first : Bool} {generation : Nat} {events : List Event}
    {e : Event} (h : s.Amid first generation events) (he : e.shows = false) :
    (s.note e).Amid first generation events := by
  unfold Amid
  rw [shown_note_hidden s he]
  exact h

/-- An event that shows is one more behind the announcement. -/
theorem Amid.note {s : Supervisor} {first : Bool} {generation : Nat} {events : List Event}
    {e : Event} (h : s.Amid first generation events) (he : e.shows = true) :
    (s.note e).Amid first generation (events ++ [e]) := by
  obtain ⟨before, hl, hs⟩ := h
  refine ⟨before, hl, ?_⟩
  rw [shown_note s he, hs, List.append_assoc, List.cons_append]

/-- What has been shown at each point of the work. -/
def Tells (s : Supervisor) (first : Bool) : Duty → Prop
  | .wait | .rest =>
    match s.phase with
    | .watching _ | .crashed => first = false ∧ s.Whole
    | .building _ => s.Amid first s.generation []
    | .stopped => True
  | .check _ | .pass _ | .fall | .rearm => first = false ∧ s.Whole
  | .withdraw =>
    first = false ∧ ∃ before, Shape before s.generation s.current ∧
      shown s.history = before ++ [.state .unhealthy]
  | .close id =>
    first = false ∧ ∃ before, Shape before s.generation (some id) ∧
      shown s.history = before ++ [.state .unhealthy, .slot none]
  | .announce => Lead first s.generation (shown s.history)
  | .ask | .start _ => s.Amid first s.generation []
  | .equip id | .listen id | .discard id _ | .hold id => s.Amid first s.generation [.started id]
  | .publish id =>
    s.current = some id ∧ ∃ g, s.generation = g + 1 ∧ s.Amid first g [.started id]
  | .confirm =>
    ∃ id, s.current = some id ∧ ∃ g, s.generation = g + 1 ∧
      s.Amid first g [.started id, .slot (some ⟨g + 1, id⟩)]
  | .conclude none => s.Whole
  | .conclude (some _) => ∃ half, s.Amid first s.generation (halfBuilt half)

end Supervisor

namespace Moment

/-- What has been shown at a moment. -/
def Tells (m : Moment) : Prop := m.supervisor.Tells m.first m.duty

theorem tells_check {first : Bool} {deadline : Time.Span} {s : Supervisor}
    (h : s.Tells first (.check deadline)) : (work ⟨first, .check deadline, s⟩).Tells := by
  obtain ⟨hfirst, hw⟩ := h
  let checked := checkHealth s.net s.current
  let told := ({ s with net := checked.1 } : Supervisor).tell (s.checkedEntry checked.2)
  have hn : (told.note (.checked checked.2.isOk)).Whole := Supervisor.Whole.hide (s := told) hw rfl
  simp only [work]
  split
  · exact ⟨hfirst, hn⟩
  · exact ⟨hfirst, hn⟩

theorem tells_withdraw {first : Bool} {s : Supervisor} (h : s.Tells first .withdraw) :
    (work ⟨first, .withdraw, s⟩).Tells := by
  obtain ⟨rfl, before, hsh, hs⟩ := h
  simp only [work]
  split
  · rename_i hc
    rw [hc] at hsh
    show Lead false s.generation (shown s.history)
    rw [hs]
    exact .later hsh
  · rename_i id hc
    rw [hc] at hsh
    refine ⟨rfl, before, hsh, ?_⟩
    rw [Supervisor.shown_publishSlot]
    show shown s.history ++ [.slot none] = _
    rw [hs, List.append_assoc, List.singleton_append]

theorem tells_start {first : Bool} {key : Key} {s : Supervisor}
    (h : s.Tells first (.start key)) :
    (work ⟨first, .start key, s⟩).Tells := by
  simp only [work]
  generalize s.net.start (s.setup.settings.options key) = r
  obtain ⟨net, cause | id⟩ := r
  · exact ⟨none, h⟩
  · exact Supervisor.Amid.note (s := { s with net := net }) h rfl

theorem tells_listen {first : Bool} {id : Nat} {s : Supervisor} (h : s.Tells first (.listen id)) :
    (work ⟨first, .listen id, s⟩).Tells := by
  simp only [work]
  generalize s.net.listen id s.setup.settings.livenessPort = r
  obtain ⟨net, cause | listener⟩ := r
  · exact h
  · exact h

theorem tells_conclude {first : Bool} {e : Option Error} {s : Supervisor}
    (hf : s.Fits (.conclude e)) (h : s.Tells first (.conclude e)) :
    (work ⟨first, .conclude e, s⟩).Tells := by
  cases first with
  | true =>
    cases e with
    | none =>
      simp only [work, Supervisor.enter]
      split
      · exact ⟨rfl, h⟩
      · exact ⟨rfl, h⟩
    | some e => trivial
  | false =>
    cases e with
    | none => exact ⟨rfl, h⟩
    | some e =>
      -- the replacement failed: its block ends here, and no session is held
      obtain ⟨half, before, hl, hs⟩ := h
      have hc : s.current = none := hf.2.2.2
      refine ⟨rfl, ?_⟩
      show Shape (shown (((s.tell (s.rebuiltEntry _)).note .failed).publish .unhealthy).history)
        s.generation s.current
      rw [Supervisor.shown_publish, Supervisor.shown_note_hidden _ rfl]
      show Shape (shown s.history ++ [.state .unhealthy]) s.generation s.current
      rw [hs, hc, List.append_assoc, List.cons_append]
      exact hl.failed half

theorem tells_rearm {first : Bool} {s : Supervisor} (h : s.Tells first .rearm) :
    (work ⟨first, .rearm, s⟩).Tells := by
  simp only [work]
  split
  · exact h
  · exact h

theorem tells_rest {first : Bool} {s : Supervisor} (h : s.Tells first .rest) :
    (work ⟨first, .rest, s⟩).Tells := by
  simp only [work]
  split
  · rename_i hc
    obtain ⟨⟨due, hp⟩, -⟩ := Supervisor.isCalled_iff.1 hc
    simp only [Supervisor.Tells, hp] at h
    obtain ⟨hfirst, hw⟩ := h
    exact ⟨hfirst, Supervisor.Whole.hide (s := { s with pending := false }) hw rfl⟩
  · exact h

/-- Every atomic action shows what is due at its point. -/
theorem tells_work {m : Moment} (hf : m.supervisor.Fits m.duty) (h : m.Tells) : m.work.Tells := by
  obtain ⟨first, duty, s⟩ := m
  cases duty with
  | wait => exact h
  | check => exact tells_check h
  | pass =>
    obtain ⟨hfirst, hw⟩ := h
    obtain ⟨-, -, id, -, hc, -⟩ := hf
    refine ⟨hfirst, ?_⟩
    unfold Supervisor.Whole at hw
    show Shape (shown (s.publish .connected).history) s.generation s.current
    rw [Supervisor.shown_publish]
    rw [hc] at hw ⊢
    exact hw.passed
  | fall =>
    obtain ⟨hfirst, hw⟩ := h
    exact ⟨hfirst, shown s.history, hw, Supervisor.shown_publish _ _⟩
  | withdraw => exact tells_withdraw h
  | close id =>
    obtain ⟨rfl, before, hsh, hs⟩ := h
    show Lead false s.generation (shown (s.closeSession id (.closed id) _).history)
    rw [Supervisor.shown_closeSession, hs, List.append_assoc]
    exact .later hsh
  | announce => exact ⟨shown s.history, h, Supervisor.shown_publish _ _⟩
  | ask => exact h.hide (s := { s with source := _, phase := _ }) rfl
  | start key => exact tells_start h
  | equip id => exact h
  | listen id => exact tells_listen h
  | discard id cause => exact ⟨some id, h.note (s := { s with net := _ }) rfl⟩
  | hold id => exact ⟨rfl, s.generation, rfl, h⟩
  | publish id =>
    obtain ⟨hc, g, hg, h⟩ := h
    refine ⟨id, hc, g, hg, ?_⟩
    rw [← hg]
    exact h.note (s := { s with slot := _ }) rfl
  | confirm =>
    -- the block of a build that succeeded, the first one included
    obtain ⟨id, hc, g, hg, before, hl, hs⟩ := h
    show Shape (shown (s.publish .connected).history) s.generation s.current
    rw [Supervisor.shown_publish, hc, hg, hs, List.append_assoc]
    exact hl.built id
  | conclude e => exact tells_conclude hf h
  | rearm => exact tells_rearm h
  | rest => exact tells_rest h

/-! ## Waits and events from outside show nothing -/

theorem tells_close {s : Supervisor} (session : Nat) (h : s.Tells false .wait) :
    (s.closeOutside session).1.Tells false .wait := by
  have hs : shown (s.closeOutside session).1.history = shown s.history :=
    Supervisor.shown_note_hidden _ rfl
  simp only [Supervisor.Tells, Supervisor.Whole, Supervisor.Amid] at h ⊢
  rw [hs]
  exact h

theorem Next.tells {m m' : Moment} (hn : Next m m') (hf : m.supervisor.Fits m.duty)
    (h : m.Tells) : m'.Tells := by
  cases hn with
  | work => exact tells_work hf h
  | check hp | pursue hp _ | key hp _ =>
    simp only [Moment.Tells, Supervisor.Tells, hp] at h
    exact h
  | abandon s time => trivial
  | request times _ =>
    obtain ⟨pending, log, he⟩ := Supervisor.ask_eq _ times
    rw [he]
    exact h
  | close s session => exact tells_close session h
  | shutdown _ => simp only [Moment.Tells, Supervisor.Tells, Supervisor.phase_stop]
  | pass _ _ | refault _ _ _ _ => exact h

/-- What has been shown at each point of the work has been shown at every moment within reach. -/
theorem Reaches.tells {m₀ m : Moment} (hf : m₀.supervisor.Fits m₀.duty) (h₀ : m₀.Tells)
    (h : Reaches m₀ m) : m.Tells :=
  h.keeps (fun hr hn => hn.tells (hr.fits hf)) h₀

end Moment

/-! ## Settled points -/

theorem tells_run (l : Launch) (steps : List Step) : (l.run steps).Tells false .wait :=
  (Moment.reaches_run l steps).tells (Moment.fits_first l) .first

/-- Before it is shut down, a supervisor has shown whole blocks, and the beginning of another one
if a build waits for its key. -/
theorem shown_run {l : Launch} {steps : List Step} (hl : l.start.2 = .running)
    (hs : Step.shutdown ∉ steps) :
    let s := l.run steps
    ∃ blocks session, Shape blocks s.generation session ∧
      shown s.history = blocks ++ if s.state = .connecting then beginning session else [] := by
  intro s
  have hw : s.AtWork := atWork_run hl hs
  have hf : s.Fits .wait := fits_run l steps
  have ht : s.Tells false .wait := tells_run l steps
  clear_value s
  have hwhole : s.Poised → s.Whole → ∃ blocks session, Shape blocks s.generation session ∧
      shown s.history = blocks ++ if s.state = .connecting then beginning session else [] := by
    intro hp hw
    refine ⟨shown s.history, s.current, hw, ?_⟩
    have hn : s.state ≠ .connecting := by
      obtain ⟨hst, -⟩ | ⟨hst, -⟩ := hp <;> simp [hst]
    rw [if_neg hn, List.append_nil]
  cases hp : s.phase with
  | watching due =>
    simp only [Supervisor.Fits, Supervisor.Tells, hp] at hf ht
    exact hwhole hf ht.2
  | building p =>
    simp only [Supervisor.Fits, Supervisor.Tells, hp] at hf ht
    -- nothing was shown behind the announcement, for the build has no key yet
    obtain ⟨before, hlead, hshown⟩ := ht
    cases hlead with
    | @later blocks _ session hsh =>
      refine ⟨blocks, session, hsh, ?_⟩
      rw [hshown, if_pos hf.1]
      simp [beginning]
  | crashed =>
    simp only [Supervisor.Fits, Supervisor.Tells, hp] at hf ht
    exact hwhole hf ht.2
  | stopped => simp only [Supervisor.AtWork, hp] at hw

/-! ## Shutdown -/

namespace Supervisor

/-- Two supervisors show the same, now and on record. -/
def Alike (s s' : Supervisor) : Prop :=
  s'.state = s.state ∧ s'.slot = s.slot ∧ s'.generation = s.generation ∧
    shown s'.history = shown s.history

/-- A supervisor that is stopped shows nothing more. -/
theorem perform_stopped {s : Supervisor} (h : s.phase = .stopped) (x : Step) :
    (s.perform x).phase = .stopped ∧ s.Alike (s.perform x) := by
  have hs : s.isStopped = true := by
    simp only [isStopped, h]
  cases x with
  | advance time =>
    simp only [perform, advance, runTo_stopped h]
    exact ⟨h, rfl, rfl, rfl, rfl⟩
  | reconnect times =>
    simp only [perform, hs, if_true]
    exact ⟨h, rfl, rfl, rfl, rfl⟩
  | close session => exact ⟨h, rfl, rfl, rfl, shown_note_hidden _ rfl⟩
  | shutdown =>
    simp only [perform, hs, if_true]
    exact ⟨h, rfl, rfl, rfl, rfl⟩
  | _ => exact ⟨h, rfl, rfl, rfl, rfl⟩

theorem steps_stopped {s : Supervisor} (h : s.phase = .stopped) (steps : List Step) :
    s.Alike (steps.foldl perform s) := by
  induction steps generalizing s with
  | nil => exact ⟨rfl, rfl, rfl, rfl⟩
  | cons x steps ih =>
    obtain ⟨hp, h₁, h₂, h₃, h₄⟩ := perform_stopped h x
    obtain ⟨h₁', h₂', h₃', h₄'⟩ := ih hp
    exact ⟨h₁'.trans h₁, h₂'.trans h₂, h₃'.trans h₃, h₄'.trans h₄⟩

/-- To stop shows the close of the session in the slot, if there is one. -/
theorem stop_shows (s : Supervisor) :
    s.stop.state = s.state ∧ s.stop.slot = s.slot ∧ s.stop.generation = s.generation ∧
      shown s.stop.history = shown s.history ++ s.slot.toList.map (.closed ·.session) := by
  unfold stop
  dsimp only
  split
  · rename_i h
    simp [h]
  · rename_i slot h
    refine ⟨rfl, rfl, rfl, ?_⟩
    rw [shown_closeSession, h]
    rfl

end Supervisor

/-- Behind every start that succeeds, what is shown are whole blocks, the beginning of another one
if a build waits for its key, and the close that a shutdown makes of the session in the slot. -/
theorem shown_run_last {l : Launch} (hl : l.start.2 = .running) (steps : List Step) :
    let s := l.run steps
    ∃ blocks session, Shape blocks s.generation session ∧
      shown s.history = (blocks ++ if s.state = .connecting then beginning session else []) ++
        (if .shutdown ∈ steps then s.slot.toList.map (.closed ·.session) else []) := by
  intro s
  by_cases hmem : Step.shutdown ∈ steps
  · -- only the first shutdown closes anything, and nothing shows behind it
    obtain ⟨steps', more, rfl, hn⟩ := List.eq_append_cons_of_mem hmem
    obtain ⟨blocks, session, hsh, hs⟩ := shown_run hl hn
    have hrun : s = more.foldl Supervisor.perform (l.run steps').stop := by
      show l.run (steps' ++ .shutdown :: more) = _
      rw [run_append, List.foldl_cons]
      simp only [Supervisor.perform, (atWork_run hl hn).not_stopped]
      rfl
    obtain ⟨h₁, h₂, h₃, h₄⟩ := Supervisor.steps_stopped (l.run steps').phase_stop more
    obtain ⟨g₁, g₂, g₃, g₄⟩ := (l.run steps').stop_shows
    rw [← hrun] at h₁ h₂ h₃ h₄
    refine ⟨blocks, session, ?_, ?_⟩
    · rw [h₃, g₃]
      exact hsh
    · rw [if_pos hmem, h₁, h₂, h₄, g₁, g₂, g₄, hs]
  · obtain ⟨blocks, session, hsh, hs⟩ := shown_run hl hmem
    refine ⟨blocks, session, hsh, ?_⟩
    rw [if_neg hmem, List.append_nil]
    exact hs

/-- Behind every start that succeeds, what is shown has the shape of blocks; the last of them may
be cut off where its build waits for its key, and a shutdown adds no more than the close of the
session in the slot. So no state but the first is ever disconnected, the published slots are the
sessions by their number with an empty slot between any two, no session is closed while it is in
the published slot, and none is started before all others are closed. -/
theorem publication_order (l : Launch) (steps : List Step) (hl : l.start.2 = .running) :
    let s := l.run steps
    ∃ blocks session,
      let own := blocks ++ if s.state = .connecting then beginning session else []
      Shape blocks s.generation session ∧
      shown s.history =
        own ++ (if .shutdown ∈ steps then s.slot.toList.map (.closed ·.session) else []) ∧
      .state .disconnected ∉ shown s.history ∧
      (slots (shown s.history)).map (·.map Slot.generation) =
        (List.range (slots (shown s.history)).length).map turn ∧
      Orderly own := by
  intro s
  obtain ⟨blocks, session, hsh, hs⟩ := shown_run_last hl steps
  have hown : Tally (blocks ++ if s.state = .connecting then beginning session else [])
      s.generation (if s.state = .connecting then none else session)
      (if s.state = .connecting then none else session) := by
    split
    · exact hsh.tally.begin
    · rw [List.append_nil]
      exact hsh.tally
  have hall : Turns (shown s.history) s.generation
      (if s.state = .connecting then none else session) := by
    rw [hs]
    by_cases hmem : Step.shutdown ∈ steps
    · rw [if_pos hmem]
      exact hown.toTurns.close s.slot
    · rw [if_neg hmem, List.append_nil]
      exact hown.toTurns
  exact ⟨blocks, session, hsh, hs, hall.known, hall.turns, hown.orderly⟩

/-- The session of a plain launch fails, its replacement waits for the network, and the supervisor
is shut down. -/
theorem publication_order_plain :
    Launch.plain.start.2 = .running ∧
      .state .disconnected ∉ shown
        (Launch.plain.run [.close 1, .failListen true, .advance 7000, .shutdown]).history := by
  obtain ⟨blocks, session, -, -, hk, -⟩ := publication_order .plain
    [.close 1, .failListen true, .advance 7000, .shutdown] running_plain
  exact ⟨running_plain, hk⟩

end Tether.Agent
