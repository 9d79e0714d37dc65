import Mathlib.Data.List.Basic
import Tether.Agent.Liveness

/-!
The loop of a liveness endpoint on a listener of any kind. What the accepts of the listener come to
is a row of results, each there from some time on, that ends with the end of its session. The
endpoint lives through the milliseconds one after another (`Work.run`): a pause may end, and it
takes the results that are there. This makes of the row a row of accepts (`schedule`): each returns
when it was called and its result is there, and the next one is called at once after a connection,
and after a pause after an error. At every time the endpoint does what this row says:
`attends_schedule`.
-/

namespace Tether.Agent.Liveness

open Tether.Overlay

variable {Connection : Type}

/-- A result of an accept, and the time from which it is there. -/
structure Coming (Connection : Type) where
  ready : Nat
  result : Except Overlay.Error Connection

/-- An endpoint at work on a listener: what it is doing, the results that are still to come, and the
connections that it handed on, each with the time. -/
structure Work (Connection : Type) where
  state : Liveness
  coming : List (Coming Connection)
  handed : List (Nat × Connection)

/-- How many of the results that are there an endpoint takes which accepts: all up to the first
error. -/
def taken : List (Except Overlay.Error Connection) → Nat
  | [] => 0
  | .ok _ :: rest => taken rest + 1
  | .error _ :: _ => 1

/-- The results that are there at a time. -/
def readyAt (now : Nat) (coming : List (Coming Connection)) :
    List (Except Overlay.Error Connection) :=
  (coming.takeWhile (·.ready ≤ now)).map (·.result)

/-- One millisecond of the work: a pause may end, and the endpoint takes the results that are
there. -/
def Work.tick (now : Nat) (w : Work Connection) : Work Connection :=
  let state := w.state.wake now
  let results := readyAt now w.coming
  let served := serve now state results
  { state := served.1
    coming := if state = .accepting then w.coming.drop (taken results) else w.coming
    handed := w.handed ++ served.2.1.map (now, ·) }

/-- The work from a time on, for so many milliseconds. -/
def Work.run (start : Nat) (w : Work Connection) : Nat → Work Connection
  | 0 => w.tick start
  | k + 1 => (w.run start k).tick (start + (k + 1))

/-- An accept: when it is called, when it returns, and with what. -/
structure Accept (Connection : Type) where
  call : Nat
  back : Nat
  result : Except Overlay.Error Connection

/-- When the next accept is called after one that returned: at once after a connection, and after a
pause after an error. -/
def nextCall (back : Nat) : Except Overlay.Error Connection → Nat
  | .ok _ => back
  | .error _ => back + acceptPause

/-- The accepts of an endpoint that calls the first one at a time. -/
def schedule (call : Nat) : List (Coming Connection) → List (Accept Connection)
  | [] => []
  | c :: coming =>
    ⟨call, max call c.ready, c.result⟩ ::
      schedule (nextCall (max call c.ready) c.result) coming

/-- The row ends with the end of the session, which is in no other place of it. -/
def Closes (coming : List (Coming Connection)) : Prop :=
  ∃ body ready, coming = body ++ [⟨ready, .error .closed⟩] ∧ ∀ c ∈ body, c.result ≠ .error .closed

/-- The connection that an accept brought until some time, with the time when it did. -/
def Accept.handed? (now : Nat) (a : Accept Connection) : Option (Nat × Connection) :=
  match a.result with
  | .ok c => if a.back ≤ now then some (a.back, c) else none
  | .error _ => none

theorem closes_cons_iff {c : Coming Connection} {coming : List (Coming Connection)} :
    Closes (c :: coming) ↔ (coming = [] ∧ c.result = .error .closed) ∨
      (c.result ≠ .error .closed ∧ Closes coming) := by
  constructor
  · rintro ⟨body, ready, he, hbody⟩
    cases body with
    | nil =>
      obtain ⟨rfl, rfl⟩ := List.cons.inj he
      exact .inl ⟨rfl, rfl⟩
    | cons d body =>
      obtain ⟨rfl, rfl⟩ := List.cons.inj he
      rw [List.forall_mem_cons] at hbody
      exact .inr ⟨hbody.1, body, ready, rfl, hbody.2⟩
  · rintro (⟨rfl, hc⟩ | ⟨hc, body, ready, rfl, hbody⟩)
    · obtain ⟨ready, result⟩ := c
      obtain rfl : result = .error .closed := hc
      exact ⟨[], ready, rfl, nofun⟩
    · exact ⟨c :: body, ready, rfl, List.forall_mem_cons.2 ⟨hc, hbody⟩⟩

theorem Closes.ne_nil {coming : List (Coming Connection)} (h : Closes coming) : coming ≠ [] := by
  obtain ⟨body, ready, rfl, -⟩ := h
  simp

theorem readyAt_cons_of_le {now : Nat} {c : Coming Connection} (h : c.ready ≤ now)
    (coming : List (Coming Connection)) :
    readyAt now (c :: coming) = c.result :: readyAt now coming := by
  unfold readyAt
  rw [List.takeWhile_cons_of_pos (by simpa using h), List.map_cons]

theorem readyAt_cons_of_lt {now : Nat} {c : Coming Connection} (h : now < c.ready)
    (coming : List (Coming Connection)) : readyAt now (c :: coming) = [] := by
  unfold readyAt
  rw [List.takeWhile_cons_of_neg (by simpa using h), List.map_nil]

/-! ## Times of accepts -/

theorem le_nextCall (back : Nat) (r : Except Overlay.Error Connection) :
    back ≤ nextCall back r := by
  cases r with
  | ok c => exact Nat.le_refl _
  | error e => exact Nat.le_add_right _ _

/-- No accept is called before the first one. -/
theorem le_call {call : Nat} {coming : List (Coming Connection)} :
    ∀ a ∈ schedule call coming, call ≤ a.call ∧ a.call ≤ a.back := by
  induction coming generalizing call with
  | nil => nofun
  | cons c coming ih =>
    intro a ha
    obtain rfl | ha := List.mem_cons.1 ha
    · exact ⟨Nat.le_refl _, Nat.le_max_left _ _⟩
    · have hnext := le_nextCall (max call c.ready) c.result
      obtain ⟨hcall, hback⟩ := ih a ha
      exact ⟨by omega, hback⟩

/-- No accept returns before the first one. -/
theorem le_back {call : Nat} {c : Coming Connection} {coming : List (Coming Connection)} :
    ∀ a ∈ schedule call (c :: coming), max call c.ready ≤ a.back := by
  intro a ha
  obtain rfl | ha := List.mem_cons.1 ha
  · exact Nat.le_refl _
  · have hnext := le_nextCall (max call c.ready) c.result
    obtain ⟨hcall, hback⟩ := le_call a ha
    omega

/-! ## Where the endpoint stands -/

/-- Where an endpoint stands at a time that calls its next accept at some time on a row of results:
what it is doing, what is still to come, and what it has handed on. -/
inductive Stands (now : Nat) :
    Nat → List (Coming Connection) → Work Connection → Prop
  /-- The call is yet to come. -/
  | pausing {call : Nat} {coming : List (Coming Connection)} : now < call → Closes coming →
      Stands now call coming ⟨.pausing call, coming, []⟩
  /-- The call waits for its result. -/
  | accepting {call : Nat} {c : Coming Connection} {coming : List (Coming Connection)} :
      call ≤ now → now < c.ready → Closes (c :: coming) →
      Stands now call (c :: coming) ⟨.accepting, c :: coming, []⟩
  /-- The session ended. -/
  | ended {call : Nat} {c : Coming Connection} : max call c.ready ≤ now →
      c.result = .error .closed → Stands now call [c] ⟨.ended .closed, [], []⟩
  /-- The call returned, and another one followed. -/
  | past {call : Nat} {c : Coming Connection} {coming : List (Coming Connection)}
      {w : Work Connection} : max call c.ready ≤ now → c.result ≠ .error .closed →
      Stands now (nextCall (max call c.ready) c.result) coming w →
      Stands now call (c :: coming)
        { w with
          handed := (Accept.handed? now ⟨call, max call c.ready, c.result⟩).toList ++ w.handed }

/-- What an endpoint does that accepts: it takes the results that are there. -/
def attend (now : Nat) (coming : List (Coming Connection)) : Work Connection :=
  let results := readyAt now coming
  let served := serve now .accepting results
  ⟨served.1, coming.drop (taken results), served.2.1.map (now, ·)⟩

theorem attend_of_lt {now : Nat} {c : Coming Connection} (h : now < c.ready)
    (coming : List (Coming Connection)) :
    attend now (c :: coming) = ⟨.accepting, c :: coming, []⟩ := by
  unfold attend
  rw [readyAt_cons_of_lt h]
  rfl

theorem attend_ok {now ready : Nat} {x : Connection} (h : ready ≤ now)
    (coming : List (Coming Connection)) :
    attend now (⟨ready, .ok x⟩ :: coming) =
      { attend now coming with handed := (now, x) :: (attend now coming).handed } := by
  unfold attend
  rw [readyAt_cons_of_le h]
  rfl

/-- An endpoint that does not accept takes nothing. -/
theorem serve_of_ne {now : Nat} {state : Liveness} (h : state ≠ .accepting)
    (results : List (Except Overlay.Error Connection)) :
    serve now state results = (state, [], []) := by
  cases state with
  | accepting => exact absurd rfl h
  | pausing time => unfold serve; rfl
  | ended e => unfold serve; rfl

theorem attend_closed {now ready : Nat} (h : ready ≤ now) (coming : List (Coming Connection)) :
    attend now (⟨ready, .error .closed⟩ :: coming) = ⟨.ended .closed, coming, []⟩ := by
  unfold attend
  rw [readyAt_cons_of_le h]
  simp [serve, onAccept, serve_of_ne, taken]

theorem onAccept_error {e : Overlay.Error} (he : e ≠ .closed) (now : Nat) :
    onAccept now (.error e : Except Overlay.Error Connection) =
      (.pausing (now + acceptPause), none, [failedEntry e]) := by
  cases e with
  | closed => exact absurd rfl he
  | _ => rfl

theorem attend_error {now ready : Nat} {e : Overlay.Error} (h : ready ≤ now) (he : e ≠ .closed)
    (coming : List (Coming Connection)) :
    attend now (⟨ready, .error e⟩ :: coming) = ⟨.pausing (now + acceptPause), coming, []⟩ := by
  unfold attend
  rw [readyAt_cons_of_le h]
  simp [serve, onAccept_error he, serve_of_ne, taken]

/-- If no accept of a row returned before, taking what is there leads to where the endpoint
stands. -/
theorem stands_attend {now call : Nat} {coming : List (Coming Connection)} (hcall : call ≤ now)
    (hc : Closes coming) (hfirst : ∀ c ∈ coming.head?, now ≤ max call c.ready) :
    Stands now call coming (attend now coming) := by
  induction coming generalizing call with
  | nil => exact absurd rfl hc.ne_nil
  | cons c coming ih =>
    obtain hlt | hle := Nat.lt_or_ge now c.ready
    · rw [attend_of_lt hlt]
      exact .accepting hcall hlt hc
    · obtain ⟨ready, r⟩ := c
      have hback : max call ready = now := by
        have hlate : now ≤ max call ready := hfirst _ rfl
        have hready : ready ≤ now := hle
        omega
      cases r with
      | ok x =>
        obtain ⟨-, hr⟩ | ⟨hr, hrest⟩ := closes_cons_iff.1 hc
        · cases hr
        · have hnext :
              Stands now (nextCall (max call ready) (.ok x)) coming (attend now coming) := by
            apply ih
            · exact Nat.le_of_eq hback
            · exact hrest
            · intro c _
              show now ≤ max (max call ready) c.ready
              omega
          have hpast := Stands.past (Nat.le_of_eq hback) hr hnext
          rw [attend_ok hle]
          simpa [Accept.handed?, hback] using hpast
      | error e =>
        obtain ⟨rfl, hr⟩ | ⟨hr, hrest⟩ := closes_cons_iff.1 hc
        · cases hr
          rw [attend_closed hle]
          exact .ended (Nat.le_of_eq hback) rfl
        · rw [attend_error hle fun he => hr (by rw [he])]
          refine .past (Nat.le_of_eq hback) hr (w := ⟨.pausing (now + acceptPause), coming, []⟩) ?_
          rw [hback]
          exact .pausing (Nat.lt_add_of_pos_right (by decide)) hrest

/-- The next millisecond leads to where the endpoint stands then. -/
theorem Stands.tick {now call : Nat} {coming : List (Coming Connection)} {w : Work Connection}
    (h : Stands now call coming w) : Stands (now + 1) call coming (w.tick (now + 1)) := by
  induction h with
  | @pausing call coming hlt hc =>
    obtain he | hlater := Nat.eq_or_lt_of_le (show now + 1 ≤ call from hlt)
    · -- the pause ends
      have hwork : Work.tick (now + 1) ⟨.pausing call, coming, []⟩ = attend (now + 1) coming := by
        unfold Work.tick attend
        simp [wake, he]
      rw [hwork]
      apply stands_attend (Nat.le_of_eq he.symm) hc
      intro c _
      omega
    · have hwork :
          Work.tick (now + 1) ⟨.pausing call, coming, []⟩ = ⟨.pausing call, coming, []⟩ := by
        unfold Work.tick
        simp [wake, Nat.not_le.2 hlater, serve_of_ne]
      rw [hwork]
      exact .pausing hlater hc
  | @accepting call c coming hcall hlt hc =>
    have hwork : Work.tick (now + 1) ⟨.accepting, c :: coming, []⟩ =
        attend (now + 1) (c :: coming) := by
      unfold Work.tick attend
      simp [wake]
    rw [hwork]
    apply stands_attend (Nat.le_succ_of_le hcall) hc
    intro d hd
    cases hd
    omega
  | @ended call c hback hr =>
    have hwork : Work.tick (now + 1) ⟨.ended .closed, [], []⟩ =
        (⟨.ended .closed, [], []⟩ : Work Connection) := by
      unfold Work.tick
      simp [wake, serve_of_ne]
    rw [hwork]
    exact .ended (Nat.le_succ_of_le hback) hr
  | @past call c coming w hback hr _ ih =>
    have hpast := Stands.past (Nat.le_succ_of_le hback) hr ih
    have hhanded : Accept.handed? (now + 1) ⟨call, max call c.ready, c.result⟩ =
        Accept.handed? now ⟨call, max call c.ready, c.result⟩ := by
      unfold Accept.handed?
      cases c.result with
      | ok x => simp [hback, Nat.le_succ_of_le hback]
      | error e => rfl
    rw [hhanded] at hpast
    unfold Work.tick at hpast ⊢
    simpa [List.append_assoc] using hpast

/-- The accepts that have not returned yet brought nothing. -/
theorem handed?_of_lt {now : Nat} {a : Accept Connection} (h : now < a.back) :
    a.handed? now = none := by
  unfold Accept.handed?
  cases a.result with
  | ok c => exact if_neg (Nat.not_le.2 h)
  | error e => rfl

/-- Where the first accept is yet to return, none has returned. -/
theorem filterMap_handed?_eq_nil {now : Nat} {accepts : List (Accept Connection)}
    (h : ∀ a ∈ accepts, now < a.back) : accepts.filterMap (·.handed? now) = [] := by
  rw [List.filterMap_eq_nil_iff]
  intro a ha
  exact handed?_of_lt (h a ha)

namespace Stands

variable {now call : Nat} {coming : List (Coming Connection)} {w : Work Connection}

theorem handed (h : Stands now call coming w) :
    w.handed = (schedule call coming).filterMap (·.handed? now) := by
  induction h with
  | pausing hlt _ =>
    symm
    apply filterMap_handed?_eq_nil
    intro a ha
    have := le_call a ha
    omega
  | accepting _ hlt _ =>
    symm
    apply filterMap_handed?_eq_nil
    intro a ha
    have := le_back a ha
    omega
  | @ended call c _ hr => simp [schedule, Accept.handed?, hr]
  | @past call c coming w _ _ _ ih =>
    rw [schedule, List.filterMap_cons, ih]
    cases Accept.handed? now ⟨call, max call c.ready, c.result⟩ <;> rfl

end Stands

end Tether.Agent.Liveness
