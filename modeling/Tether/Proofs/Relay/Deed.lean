import Tether.Proofs.Relay.Lane

/-!
A pipe at work. Its two copies run side by side, and what either does next is one deed: it moves
bytes, it meets its end, it is cancelled because the other one has ended, or it shuts down the
channel it wrote into; when both have done that, the pipe lets go of its streams and returns.
`Pipe.Does` allows the deeds in any order that keeps to these conditions, and `Pipe.Row` is any row
of them. Every deed leaves less to do, so a row is never longer than `Pipe.effort`; what
`Pipe.settle` does in one go is one such row, up to where no deed is possible (`Pipe.settle_row`).
-/

namespace Tether.Relay.Pipe

open Tether.Net

/-- The end opposite. -/
def End.other : End → End
  | .client => .service
  | .service => .client

@[simp] theorem End.other_other (e : End) : e.other.other = e := by cases e <;> rfl

@[simp] theorem End.other_ne (e : End) : e.other ≠ e := by cases e <;> decide

theorem End.eq_or_eq_other (e x : End) : x = e ∨ x = e.other := by
  cases e <;> cases x <;> simp [End.other]

/-! ## Lanes -/

/-- The direction in which an end sends. -/
def lane (p : Pipe) : End → Lane
  | .client => ⟨p.toLocal, p.inbound.fromDialer, p.outbound.fromDialer⟩
  | .service => ⟨p.toRemote, p.outbound.fromAcceptor, p.inbound.fromAcceptor⟩

/-- Replaces the direction in which an end sends. -/
def setLane (p : Pipe) (e : End) (l : Lane) : Pipe :=
  match e with
  | .client => { p with
      toLocal := l.copy
      inbound := { p.inbound with fromDialer := l.source }
      outbound := { p.outbound with fromDialer := l.sink } }
  | .service => { p with
      toRemote := l.copy
      outbound := { p.outbound with fromAcceptor := l.source }
      inbound := { p.inbound with fromAcceptor := l.sink } }

@[simp] theorem lane_setLane (p : Pipe) (e : End) (l : Lane) : (p.setLane e l).lane e = l := by
  cases e <;> rfl

@[simp] theorem lane_setLane_other (p : Pipe) (e : End) (l : Lane) :
    (p.setLane e l).lane e.other = p.lane e.other := by cases e <;> rfl

@[simp] theorem lane_other_setLane (p : Pipe) (e : End) (l : Lane) :
    (p.setLane e.other l).lane e = p.lane e := by cases e <;> rfl

@[simp] theorem stats_setLane (p : Pipe) (e : End) (l : Lane) :
    (p.setLane e l).stats = p.stats := by cases e <;> rfl

@[simp] theorem setLane_setLane (p : Pipe) (e : End) (l l' : Lane) :
    (p.setLane e l).setLane e l' = p.setLane e l' := by cases e <;> rfl

@[simp] theorem setLane_lane (p : Pipe) (e : End) : p.setLane e (p.lane e) = p := by cases e <;> rfl

/-- What can be said of a lane, with one of the two changed. -/
theorem forall_setLane {P : End → Lane → Prop} {p : Pipe} {e : End} {l : Lane} (hl : P e l)
    (ho : P e.other (p.lane e.other)) (x : End) : P x ((p.setLane e l).lane x) := by
  obtain rfl | rfl := e.eq_or_eq_other x
  · rwa [lane_setLane]
  · rwa [lane_setLane_other]

/-! ## Deeds -/

/-- One thing that a pipe does; a copy is named by the end whose bytes it carries. -/
inductive Deed
  /-- The copy moves bytes. -/
  | move (sender : End)
  /-- The copy meets the end of its source, or a fault. -/
  | meet (sender : End) (fault : Option Fault)
  /-- The copy is cancelled. -/
  | cancel (sender : End)
  /-- The copy, which has ended, shuts down the channel it wrote into. -/
  | shut (sender : End)
  /-- The pipe lets go of both streams and returns. -/
  | release
  deriving DecidableEq, Repr

/-- Lets go of both streams and reports what was moved. -/
def release (p : Pipe) : Pipe :=
  { p with
    inbound := p.inbound.drop .acceptor
    outbound := p.outbound.drop .dialer
    stats := some (.ofCopies p.toLocal p.toRemote) }

/-- What a pipe that has not returned can do next, behind the deeds it has done. -/
inductive Does (done : List Deed) (p : Pipe) : Deed → Pipe → Prop
  | move {e : End} {l : Lane} : p.stats = none → Lane.Moves (p.lane e) l →
      Does done p (.move e) (p.setLane e l)
  | meet {e : End} {fault : Option Fault} : p.stats = none → Lane.Meets (p.lane e) fault →
      Does done p (.meet e fault) (p.setLane e ((p.lane e).ended fault))
  | cancel {e : End} : p.stats = none → (p.lane e).copy.isAlive = true →
      (p.lane e.other).copy.isAlive = false →
      Does done p (.cancel e) (p.setLane e ((p.lane e).ended none))
  | shut {e : End} : p.stats = none → (p.lane e).copy.isAlive = false → .shut e ∉ done →
      Does done p (.shut e) (p.setLane e (p.lane e).shut)
  | release : p.stats = none → (∀ e, .shut e ∈ done) → Does done p .release p.release

/-- The pipe can do nothing more before something else happens. -/
def Settled (done : List Deed) (p : Pipe) : Prop := ∀ d p', ¬Does done p d p'

/-- A row of deeds. -/
inductive Row (done : List Deed) (p : Pipe) : List Deed → Pipe → Prop
  | refl : Row done p done p
  | tail {done' : List Deed} {p' : Pipe} {d : Deed} {p'' : Pipe} :
      Row done p done' p' → Does done' p' d p'' → Row done p (done' ++ [d]) p''

theorem Row.trans {done done' done'' : List Deed} {p p' p'' : Pipe} (h : Row done p done' p')
    (h' : Row done' p' done'' p'') : Row done p done'' p'' := by
  induction h' with
  | refl => exact h
  | tail _ hd ih => exact ih.tail hd

theorem Does.running {done : List Deed} {p p' : Pipe} {d : Deed} (h : Does done p d p') :
    p.stats = none := by
  cases h <;> assumption

/-- A pipe that has returned does nothing more. -/
theorem settled_of_returned {done : List Deed} {p : Pipe} (h : p.stats ≠ none) :
    Settled done p := fun _ _ hd => h hd.running

/-- A pipe that has returned does not react any more. -/
theorem settle_of_returned {p : Pipe} (h : p.stats ≠ none) : p.settle = p := by
  unfold settle
  rw [if_pos (Option.isSome_iff_ne_none.2 h)]

/-! ## Every row comes to an end -/

/-- What is left to do in one direction. -/
def share (done : List Deed) (p : Pipe) (e : End) : Nat :=
  (p.lane e).effort + if .shut e ∈ done then 0 else 1

/-- What is left to do for a pipe. -/
def effort (done : List Deed) (p : Pipe) : Nat :=
  share done p .client + share done p .service + if p.stats = none then 1 else 0

theorem effort_eq (done : List Deed) (p : Pipe) (e : End) :
    effort done p = share done p e + share done p e.other + if p.stats = none then 1 else 0 := by
  cases e with
  | client => rfl
  | service =>
    unfold effort
    rw [Nat.add_comm (share done p .client)]
    rfl

/-- A deed of one copy leaves the other direction alone. -/
theorem effort_setLane_lt {done : List Deed} {p : Pipe} {e : End} {l : Lane} {d : Deed}
    (hd : ∀ x, x ≠ e → d ≠ .shut x)
    (h : share (done ++ [d]) (p.setLane e l) e < share done p e) :
    effort (done ++ [d]) (p.setLane e l) < effort done p := by
  have ho : share (done ++ [d]) (p.setLane e l) e.other = share done p e.other := by
    have hn : Deed.shut e.other ≠ d := fun he => hd e.other e.other_ne he.symm
    simp [share, hn]
  rw [effort_eq _ _ e, effort_eq done p e, ho, stats_setLane]
  omega

theorem Does.effort_lt {done : List Deed} {p p' : Pipe} {d : Deed} (h : Does done p d p') :
    effort (done ++ [d]) p' < effort done p := by
  cases h with
  | @move e l hs hm =>
    refine effort_setLane_lt (fun x _ hx => by cases hx) ?_
    have := hm.effort_lt
    simpa [share] using this
  | @meet e fault hs hm =>
    refine effort_setLane_lt (fun x _ hx => by cases hx) ?_
    have := Lane.effort_ended_lt hm.alive fault
    simpa [share] using this
  | @cancel e hs ha ho =>
    refine effort_setLane_lt (fun x _ hx => by cases hx) ?_
    have := Lane.effort_ended_lt ha none
    simpa [share] using this
  | @shut e hs ha hn =>
    refine effort_setLane_lt ?_ ?_
    · rintro x hx ⟨⟩
      exact hx rfl
    · have he : (p.lane e).shut.effort = (p.lane e).effort := rfl
      simp [share, hn, he]
  | release hs hd =>
    have he (e : End) : (p.release.lane e).effort = (p.lane e).effort := by cases e <;> rfl
    have hr : p.release.stats ≠ none := Option.some_ne_none _
    simp [effort, share, he, hr, hs]

/-- No row of deeds is longer than what there was to do. -/
theorem Row.length_le {done done' : List Deed} {p p' : Pipe} (h : Row done p done' p') :
    done'.length + effort done' p' ≤ done.length + effort done p := by
  induction h with
  | refl => exact Nat.le_refl _
  | tail _ hd ih =>
    have := hd.effort_lt
    rw [List.length_append, List.length_singleton]
    omega

/-! ## What a pipe does in one go -/

theorem row_moves (done : List Deed) {p : Pipe} {e : End} {l : Lane} (hs : p.stats = none)
    (h : Relation.ReflTransGen Lane.Moves (p.lane e) l) :
    ∃ more, Row done p (done ++ more) (p.setLane e l) ∧ ∀ d ∈ more, d = .move e := by
  induction h with
  | refl =>
    refine ⟨[], ?_, by simp⟩
    rw [List.append_nil, setLane_lane]
    exact .refl
  | @tail m l _ hm ih =>
    obtain ⟨more, hr, hd⟩ := ih
    refine ⟨more ++ [.move e], ?_, ?_⟩
    · rw [← List.append_assoc]
      refine hr.tail ?_
      rw [← setLane_setLane p e m l]
      exact .move (by rwa [stats_setLane]) (by rwa [lane_setLane])
    · intro d
      rw [List.mem_append, List.mem_singleton]
      rintro (h | h)
      · exact hd d h
      · exact h

/-- A copy does all it can, without a look at the other one. -/
theorem row_run (done : List Deed) {p : Pipe} (e : End) (hs : p.stats = none) :
    ∃ more, Row done p (done ++ more) (p.setLane e (p.lane e).run) ∧
      ∀ x, .shut x ∉ more := by
  obtain ⟨m, hm, hr⟩ := (p.lane e).run_spec
  obtain ⟨more, hrow, hd⟩ := row_moves done hs hm
  have hn : ∀ x, Deed.shut x ∉ more := by
    intro x hx
    cases hd _ hx
  obtain ⟨-, he⟩ | ⟨fault, hf, he⟩ := hr
  · rw [he]
    exact ⟨more, hrow, hn⟩
  · rw [he]
    refine ⟨more ++ [.meet e fault], ?_, ?_⟩
    · rw [← List.append_assoc]
      refine hrow.tail ?_
      have hl := lane_setLane p e m
      have hd : Does (done ++ more) (p.setLane e m) (.meet e fault)
          ((p.setLane e m).setLane e (((p.setLane e m).lane e).ended fault)) :=
        .meet (by rwa [stats_setLane]) (by rwa [hl])
      rwa [hl, setLane_setLane] at hd
    · intro x
      simp [hn x]

/-- Cancels the copy that carries the bytes of an end, if it still goes on. -/
def cancelAt (p : Pipe) (e : End) : Pipe :=
  p.setLane e { p.lane e with copy := (p.lane e).copy.cancel }

/-- Shuts down the channel that the copy of an end writes into. -/
def shutAt (p : Pipe) (e : End) : Pipe := p.setLane e (p.lane e).shut

theorem finish_eq (p : Pipe) : p.finish =
    ((((p.cancelAt .client).cancelAt .service).shutAt .client).shutAt .service).release := rfl

theorem cancelAt_comm (p : Pipe) : (p.cancelAt .client).cancelAt .service =
    (p.cancelAt .service).cancelAt .client := rfl

theorem isAlive_cancel (c : Copy) : c.cancel.isAlive = false := by
  unfold Copy.cancel
  split
  · rfl
  · rename_i h
    simpa using h

/-- A copy is cancelled behind the other one's end. -/
theorem row_cancelAt (done : List Deed) {p : Pipe} (e : End) (hs : p.stats = none)
    (ho : (p.lane e.other).copy.isAlive = false) :
    ∃ more, Row done p (done ++ more) (p.cancelAt e) ∧ ∀ x, .shut x ∉ more := by
  unfold cancelAt Copy.cancel
  by_cases ha : (p.lane e).copy.isAlive = true
  · rw [if_pos ha]
    exact ⟨[.cancel e], .tail .refl (.cancel hs ha ho), by simp⟩
  · rw [if_neg ha]
    refine ⟨[], ?_, by simp⟩
    rw [List.append_nil]
    have : p.setLane e ⟨(p.lane e).copy, (p.lane e).source, (p.lane e).sink⟩ = p := setLane_lane p e
    rw [this]
    exact .refl

/-- Behind the end of one copy both are over. -/
theorem row_cancels {done : List Deed} {p : Pipe} {e : End} (hs : p.stats = none)
    (ho : (p.lane e).copy.isAlive = false) :
    ∃ more, Row done p (done ++ more) ((p.cancelAt e.other).cancelAt e) ∧ ∀ x, .shut x ∉ more := by
  obtain ⟨more, hr, hn⟩ := row_cancelAt done e.other hs (by rwa [End.other_other])
  have ho' : ((p.cancelAt e.other).lane e.other).copy.isAlive = false := by
    unfold cancelAt
    rw [lane_setLane]
    exact isAlive_cancel _
  have hs' : (p.cancelAt e.other).stats = none := by
    unfold cancelAt
    rwa [stats_setLane]
  obtain ⟨more', hr', hn'⟩ := row_cancelAt (done ++ more) e hs' ho'
  refine ⟨more ++ more', ?_, ?_⟩
  · rw [← List.append_assoc]
    exact hr.trans hr'
  · intro x
    simp [hn x, hn' x]

/-- A pipe whose copies are over shuts down both channels and returns. -/
theorem row_release {done : List Deed} {p : Pipe} (hs : p.stats = none)
    (ho : ∀ e, (p.lane e).copy.isAlive = false) (hn : ∀ e, .shut e ∉ done) :
    Row done p (done ++ [.shut .client] ++ [.shut .service] ++ [.release])
      ((p.shutAt .client).shutAt .service).release := by
  have h₁ : Does done p (.shut .client) (p.shutAt .client) := .shut hs (ho _) (hn _)
  have h₂ : Does (done ++ [.shut .client]) (p.shutAt .client) (.shut .service)
      ((p.shutAt .client).shutAt .service) := .shut hs (ho .service) (by simp [hn])
  refine ((Row.refl.tail h₁).tail h₂).tail (.release hs ?_)
  intro e
  cases e <;> simp

/-- Behind the end of one copy a pipe returns. -/
theorem row_finish {done : List Deed} {p : Pipe} {e : End} (hs : p.stats = none)
    (ho : (p.lane e).copy.isAlive = false) (hn : ∀ x, .shut x ∉ done) :
    ∃ more, Row done p (done ++ more) p.finish := by
  have hc : ∃ more, Row done p (done ++ more) ((p.cancelAt .client).cancelAt .service) ∧
      ∀ x, .shut x ∉ more := by
    cases e with
    | client =>
      rw [cancelAt_comm]
      exact row_cancels hs ho
    | service => exact row_cancels hs ho
  obtain ⟨more, hr, hn'⟩ := hc
  refine ⟨more ++ [.shut .client] ++ [.shut .service] ++ [.release], ?_⟩
  rw [finish_eq]
  simp only [← List.append_assoc]
  refine hr.trans (row_release ?_ ?_ ?_)
  · exact hs
  · intro x
    cases x <;> exact isAlive_cancel _
  · intro x
    simp [hn x, hn' x]

/-- What a pipe does in one go is a row of deeds, and behind it no deed is possible. -/
theorem settle_row {done : List Deed} {p : Pipe} (hs : p.stats = none)
    (hn : ∀ e, .shut e ∉ done) :
    ∃ done', Row done p done' p.settle ∧ Settled done' p.settle := by
  -- first the copy of the client runs, then that of the service, and neither shuts a channel
  obtain ⟨more, hr, hn₁⟩ := row_run done .client hs
  obtain ⟨more', hr', hn₂⟩ :=
    row_run (done ++ more) (p := p.setLane .client (p.lane .client).run) .service hs
  have hrow : Row done p (done ++ more ++ more') p.runCopies := hr.trans hr'
  have hrun (e : End) : (p.runCopies.lane e).Stuck := by
    cases e with
    | client => exact Lane.stuck_run (p.lane .client)
    | service => exact Lane.stuck_run (p.lane .service)
  have hnone : ∀ e, Deed.shut e ∉ done ++ more ++ more' := by
    intro e
    simp [hn e, hn₁ e, hn₂ e]
  have hs' : p.runCopies.stats = none := hs
  have hset : p.settle = if p.runCopies.toLocal.isAlive && p.runCopies.toRemote.isAlive
      then p.runCopies else p.runCopies.finish := by
    unfold settle
    rw [hs]
    rfl
  rw [hset]
  by_cases ha : (p.runCopies.toLocal.isAlive && p.runCopies.toRemote.isAlive) = true
  · rw [if_pos ha]
    rw [Bool.and_eq_true] at ha
    have halive (e : End) : (p.runCopies.lane e).copy.isAlive = true := by
      cases e with
      | client => exact ha.1
      | service => exact ha.2
    refine ⟨_, hrow, ?_⟩
    intro d p' hd
    cases hd with
    | move _ hm => exact (hrun _).1 _ hm
    | meet _ hm => exact (hrun _).2 _ hm
    | cancel _ _ ho => simp [halive] at ho
    | shut _ ho _ => simp [halive] at ho
    | release _ hd => exact hnone .client (hd .client)
  · rw [if_neg ha]
    have hover : ∃ e, (p.runCopies.lane e).copy.isAlive = false := by
      rw [Bool.not_eq_true, Bool.and_eq_false_iff] at ha
      obtain h | h := ha
      · exact ⟨.client, h⟩
      · exact ⟨.service, h⟩
    obtain ⟨e, ho⟩ := hover
    -- the rest follows from the end of one copy, whichever it is
    obtain ⟨last, hl⟩ := row_finish hs' ho hnone
    exact ⟨_, hrow.trans hl, settled_of_returned (by simp [finish])⟩

end Tether.Relay.Pipe
