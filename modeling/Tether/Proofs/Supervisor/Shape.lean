import Tether.Agent.Supervisor

/-!
The shape of what a supervisor shows. A run begins with a build that succeeds; behind it come, in
any order, checks that pass and replacements, each with its own row of events (`Shape`). Whatever
has this shape is in order, and so is what a replacement cut off behind its announcement leaves
(`Tally`): the slots published are the first session, none, the second session, none, and so on;
a session is closed only when no slot is shown; and a session is started only when every session
started before it was closed.
-/

namespace Tether.Agent

/-! ## Events that show -/

/-- Published states, published slots, and the starts and closes of sessions are what shows. -/
def Event.shows : Event → Bool
  | .state _ | .slot _ | .started _ | .closed _ => true
  | .closedOutside _ | .checked _ | .requested | .begun | .failed => false

/-- What a record shows, oldest first. -/
def shown (history : List (Nat × Event)) : List Event :=
  (history.reverse.map Prod.snd).filter Event.shows

@[simp] theorem shown_cons (time : Nat) (e : Event) (history : List (Nat × Event)) :
    shown ((time, e) :: history) = shown history ++ if e.shows then [e] else [] := by
  unfold shown
  rw [List.reverse_cons, List.map_append, List.filter_append]
  cases he : e.shows <;> simp [he]

/-- The slot that an event publishes. -/
def Event.slot? : Event → Option (Option Slot)
  | .slot s => some s
  | _ => none

/-- The slots that were published. -/
def slots (shown : List Event) : List (Option Slot) := shown.filterMap Event.slot?

/-- The slot that is published last; at first there is none. -/
def lastSlot (shown : List Event) : Option Slot := (slots shown).getLast?.join

theorem slots_concat (shown : List Event) (e : Event) :
    slots (shown ++ [e]) = slots shown ++ e.slot?.toList := by
  unfold slots
  rw [List.filterMap_append, List.filterMap_cons, List.filterMap_nil]
  cases e.slot? <;> rfl

theorem lastSlot_concat (shown : List Event) (e : Event) :
    lastSlot (shown ++ [e]) = e.slot?.getD (lastSlot shown) := by
  unfold lastSlot
  rw [slots_concat]
  cases e.slot? <;> simp

/-! ## The shape -/

/-- The session in service is withdrawn and closed, if there is one. -/
def withdrawn : Option Nat → List Event
  | none => []
  | some id => [.slot none, .closed id]

/-- What a session installed as the one of a number shows. -/
def installed (generation id : Nat) : List Event :=
  [.started id, .slot (some ⟨generation, id⟩), .state .connected]

/-- What a build that fails leaves: nothing, or a session that was started and closed again. -/
def halfBuilt : Option Nat → List Event
  | none => []
  | some id => [.started id, .closed id]

/-- A replacement up to where its build is announced. -/
def beginning (session : Option Nat) : List Event :=
  .state .unhealthy :: (withdrawn session ++ [.state .connecting])

/-- What a supervisor shows behind some blocks, with the number of sessions installed and the one
in service. -/
inductive Shape : List Event → Nat → Option Nat → Prop
  /-- The first session is built. -/
  | opening (id : Nat) : Shape (.state .connecting :: installed 1 id) 1 (some id)
  /-- A check passes. -/
  | passed {shown : List Event} {generation id : Nat} : Shape shown generation (some id) →
      Shape (shown ++ [.state .connected]) generation (some id)
  /-- A session is replaced by another. -/
  | replaced {shown : List Event} {generation : Nat} {session : Option Nat} (id : Nat) :
      Shape shown generation session →
      Shape (shown ++ beginning session ++ installed (generation + 1) id) (generation + 1)
        (some id)
  /-- A replacement fails. -/
  | failed {shown : List Event} {generation : Nat} {session : Option Nat} (half : Option Nat) :
      Shape shown generation session →
      Shape (shown ++ beginning session ++ halfBuilt half ++ [.state .unhealthy]) generation none

/-! ## Order -/

/-- An event may come behind others: a session is closed only while no slot is shown, and started
only when every session that was started was closed as often. -/
def Allowed (before : List Event) : Event → Prop
  | .closed _ => lastSlot before = none
  | .started _ => ∀ id, before.count (.started id) = before.count (.closed id)
  | _ => True

/-- Every event may come behind those before it. -/
def Orderly (shown : List Event) : Prop :=
  ∀ before e after, shown = before ++ e :: after → Allowed before e

theorem Orderly.concat {shown : List Event} {e : Event} (h : Orderly shown)
    (he : Allowed shown e) : Orderly (shown ++ [e]) := by
  intro before x after heq
  obtain rfl | ⟨after, y, rfl⟩ := List.eq_nil_or_concat after
  · obtain ⟨rfl, hx⟩ := List.append_inj' heq rfl
    cases hx
    exact he
  · rw [List.concat_eq_append, ← List.cons_append, ← List.append_assoc] at heq
    exact h before x after (List.append_inj' heq rfl).1

/-- The generation in the published slot of a place: the slots alternate between the sessions in
the order of their number and none. -/
def turn (place : Nat) : Option Nat := if place % 2 = 0 then some (place / 2 + 1) else none

/-- What is known about the published slots, with the number of sessions installed and the session
in the slot that was published last. -/
structure Turns (shown : List Event) (generation : Nat) (session : Option Nat) : Prop where
  known : .state .disconnected ∉ shown
  last : lastSlot shown = session.map (⟨generation, ·⟩)
  turns : (slots shown).map (·.map Slot.generation) = (List.range (slots shown).length).map turn
  length : (slots shown).length + session.toList.length = 2 * generation

namespace Turns

variable {shown : List Event} {generation : Nat} {session : Option Nat}

/-- An event that publishes no slot leaves the slots alone. -/
theorem skip {e : Event} (h : Turns shown generation session) (he : e.slot? = none)
    (hk : e ≠ .state .disconnected) : Turns (shown ++ [e]) generation session where
  known := by
    rw [List.mem_append, not_or, List.mem_singleton]
    exact ⟨h.known, hk.symm⟩
  last := by
    rw [lastSlot_concat, he]
    exact h.last
  turns := by
    rw [slots_concat, he, Option.toList_none, List.append_nil]
    exact h.turns
  length := by
    rw [slots_concat, he, Option.toList_none, List.append_nil]
    exact h.length

theorem close (h : Turns shown generation session) (slot : Option Slot) :
    Turns (shown ++ slot.toList.map (.closed ·.session)) generation session := by
  cases slot with
  | none =>
    rw [Option.toList_none, List.map_nil, List.append_nil]
    exact h
  | some slot => exact h.skip rfl (by simp)

/-- A slot is published in the place whose turn it is. -/
theorem publish (h : Turns shown generation session) (next : Nat) (session' : Option Nat)
    (ht : session'.map (fun _ => next) = turn (slots shown).length)
    (hl : (slots shown).length + 1 + session'.toList.length = 2 * next) :
    Turns (shown ++ [.slot (session'.map (⟨next, ·⟩))]) next session' where
  known := by
    rw [List.mem_append, not_or, List.mem_singleton]
    exact ⟨h.known, by simp⟩
  last := lastSlot_concat _ _
  turns := by
    have hs : slots (shown ++ [.slot (session'.map (⟨next, ·⟩))]) =
        slots shown ++ [session'.map (⟨next, ·⟩)] := slots_concat _ _
    rw [hs, List.map_append, h.turns, List.length_append, List.length_singleton, List.range_succ,
      List.map_append, List.map_singleton, List.map_singleton, ← ht]
    cases session' <;> rfl
  length := by
    rw [slots_concat, List.length_append]
    exact hl

end Turns

/-- What is known about everything shown so far, with the session that was started and not closed
yet beside the rest. -/
structure Tally (shown : List Event) (generation : Nat) (session live : Option Nat) : Prop
    extends Turns shown generation session where
  closes : ∀ id, shown.count (.started id) = shown.count (.closed id) + live.toList.count id
  orderly : Orderly shown

namespace Tally

variable {shown : List Event} {generation : Nat} {session live : Option Nat}

theorem nil : Tally [] 0 none none where
  known := List.not_mem_nil
  last := rfl
  turns := rfl
  length := rfl
  closes _ := rfl
  orderly := by
    intro before e after h
    simp at h

theorem state (h : Tally shown generation session live) (state : State)
    (hs : state ≠ .disconnected) : Tally (shown ++ [.state state]) generation session live where
  toTurns := by
    refine h.skip rfl ?_
    intro he
    cases he
    exact hs rfl
  closes id := by
    simpa using h.closes id
  orderly := h.orderly.concat trivial

theorem withdraw {id : Nat} (h : Tally shown generation (some id) live) :
    Tally (shown ++ [.slot none]) generation none live where
  toTurns := by
    -- the slot before shows a session, so this place is odd
    have hl : (slots shown).length + 1 = 2 * generation := h.length
    refine h.publish generation none ?_ hl
    unfold turn
    rw [if_neg (by omega)]
    rfl
  closes j := by
    simpa using h.closes j
  orderly := h.orderly.concat trivial

theorem close {id : Nat} (h : Tally shown generation none (some id)) :
    Tally (shown ++ [.closed id]) generation none none where
  toTurns := h.skip rfl (by simp)
  closes j := by
    have hc := h.closes j
    simp only [Option.toList_some, List.count_singleton] at hc
    simp [List.count_singleton, hc]
  orderly := h.orderly.concat h.last

theorem start (id : Nat) (h : Tally shown generation none none) :
    Tally (shown ++ [.started id]) generation none (some id) where
  toTurns := h.skip rfl (by simp)
  closes j := by
    have hc := h.closes j
    simp only [Option.toList_none, List.count_nil, Nat.add_zero] at hc
    simp [List.count_singleton, hc]
  orderly := h.orderly.concat h.closes

theorem publish {id : Nat} (h : Tally shown generation none (some id)) :
    Tally (shown ++ [.slot (some ⟨generation + 1, id⟩)]) (generation + 1) (some id) (some id) where
  toTurns := by
    -- the slot before is empty, so this place is even
    have hl : (slots shown).length = 2 * generation := h.length
    refine h.toTurns.publish (generation + 1) (some id) ?_ ?_
    · unfold turn
      rw [hl, Nat.mul_mod_right, if_pos rfl, Nat.mul_div_cancel_left _ (by decide)]
      rfl
    · rw [hl, Option.toList_some, List.length_singleton]
      omega
  closes j := by
    simpa using h.closes j
  orderly := h.orderly.concat trivial

end Tally

/-! ## Whatever has the shape is in order -/

/-- A replacement that has come to the announcement of its build. -/
theorem Tally.begin {shown : List Event} {generation : Nat} {session : Option Nat}
    (h : Tally shown generation session session) :
    Tally (shown ++ beginning session) generation none none := by
  have hu := h.state .unhealthy (by decide)
  unfold beginning
  cases session with
  | none => simpa [withdrawn] using hu.state .connecting (by decide)
  | some id => simpa [withdrawn] using hu.withdraw.close.state .connecting (by decide)

theorem Tally.install {shown : List Event} {generation : Nat} (id : Nat)
    (h : Tally shown generation none none) :
    Tally (shown ++ installed (generation + 1) id) (generation + 1) (some id) (some id) := by
  simpa [installed] using (h.start id).publish.state .connected (by decide)

theorem Tally.halfBuilt {shown : List Event} {generation : Nat} (half : Option Nat)
    (h : Tally shown generation none none) :
    Tally (shown ++ Agent.halfBuilt half) generation none none := by
  cases half with
  | none => simpa [Agent.halfBuilt] using h
  | some id => simpa [Agent.halfBuilt] using (h.start id).close

theorem Shape.tally {shown : List Event} {generation : Nat} {session : Option Nat}
    (h : Shape shown generation session) : Tally shown generation session session := by
  induction h with
  | opening id => exact (Tally.nil.state .connecting (by decide)).install id
  | passed _ ih => exact ih.state .connected (by decide)
  | replaced id _ ih => exact ih.begin.install id
  | failed half _ ih => exact (ih.begin.halfBuilt half).state .unhealthy (by decide)

end Tether.Agent
