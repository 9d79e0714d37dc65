import Tether.Proofs.Relay.Deed

/-!
The order in which a pipe comes to its end. No copy is over before one of them has met the end of
its source or a fault; the other is cancelled behind that. Each shuts down the channel it wrote into
behind its own end, and moves nothing any more; when both have done so the pipe returns.
`Pipe.Ordered` ties the deeds to what the pipe shows, and every deed keeps it (`Ordered.does`). So a
settled pipe either has two copies that go on, both of them blocked, or it has returned
(`Settled.alive`, `Settled.blocked`, `Settled.returned_iff_met`).
-/

namespace Tether.Relay.Pipe

open Tether.Net

/-- The deeds of a pipe agree with what it shows. -/
structure Ordered (done : List Deed) (p : Pipe) : Prop where
  /-- A copy is over when it has met its end or was cancelled. -/
  ended : ∀ e, (p.lane e).copy.isAlive = false ↔ (∃ fault, .meet e fault ∈ done) ∨ .cancel e ∈ done
  /-- A copy is cancelled only behind the other one's own end. -/
  cancelled : ∀ e, .cancel e ∈ done → ∃ fault, .meet e.other fault ∈ done
  /-- Only a copy that is over shuts down its channel, and that is closed then. -/
  shut : ∀ e, .shut e ∈ done → (p.lane e).copy.isAlive = false ∧ (p.lane e).sink.closed = true
  /-- Behind its return every channel of a pipe is closed. -/
  returned : p.stats ≠ none → ∀ e, .shut e ∈ done ∧ (p.lane e).source.closed = true
  /-- Behind its shutdown a copy moves nothing. -/
  last : done.Pairwise fun d d' => ∀ e, d = .shut e → d' ≠ .move e

namespace Ordered

variable {done : List Deed} {p : Pipe}

theorem nil (inbound outbound : Nat) : Ordered [] (.ofCapacities inbound outbound) where
  ended e := by cases e <;> simp [ofCapacities, lane, Copy.fresh, Copy.isAlive]
  cancelled e h := absurd h List.not_mem_nil
  shut e h := absurd h List.not_mem_nil
  returned h := absurd rfl h
  last := .nil

/-- A copy that goes on was neither ended nor shut down. -/
theorem not_shut (h : Ordered done p) {e : End} (ha : (p.lane e).copy.isAlive = true) :
    .shut e ∉ done := by
  intro hm
  rw [(h.shut e hm).1] at ha
  cases ha

/-- Behind the end of any copy, one of them has met it by itself. -/
theorem met (h : Ordered done p) {e : End} (ho : (p.lane e).copy.isAlive = false) :
    ∃ e fault, .meet e fault ∈ done := by
  obtain ⟨fault, hm⟩ | hc := (h.ended e).1 ho
  · exact ⟨e, fault, hm⟩
  · obtain ⟨fault, hm⟩ := h.cancelled e hc
    exact ⟨e.other, fault, hm⟩

/-- Another deed keeps the shutdowns behind the last move. -/
theorem last_concat (h : Ordered done p) {d : Deed} (hd : ∀ e, d = .move e → .shut e ∉ done) :
    (done ++ [d]).Pairwise fun d d' => ∀ e, d = .shut e → d' ≠ .move e := by
  rw [List.pairwise_append]
  refine ⟨h.last, List.pairwise_singleton _ _, ?_⟩
  intro x hx y hy e he hm
  rw [List.mem_singleton] at hy
  subst hy
  subst he
  exact hd e hm hx

/-- A deed of a copy that goes on keeps the order if it ends that copy when it says so, and cancels
it only behind the end of the other one. -/
theorem of_alive {e : End} {l : Lane} {d : Deed} (h : Ordered done p) (hs : p.stats = none)
    (ha : (p.lane e).copy.isAlive = true)
    (hown : l.copy.isAlive = false ↔ (∃ fault, d = .meet e fault) ∨ d = .cancel e)
    (hmeet : ∀ fault, d ≠ .meet e.other fault) (hother : d ≠ .cancel e.other)
    (hcancel : d = .cancel e → ∃ fault, .meet e.other fault ∈ done)
    (hshut : ∀ x, d ≠ .shut x) (hmove : ∀ x, d = .move x → x = e) :
    Ordered (done ++ [d]) (p.setLane e l) where
  ended := by
    -- nothing ended this copy before, so only the deed itself can
    have hnone : ¬((∃ fault, Deed.meet e fault ∈ done) ∨ .cancel e ∈ done) := by
      rw [← h.ended e, ha]
      decide
    refine forall_setLane (P := fun x l => l.copy.isAlive = false ↔ _) ?_ ?_
    · rw [hown]
      grind
    · rw [h.ended e.other]
      grind
  cancelled x hx := by
    rw [List.mem_append, List.mem_singleton] at hx
    obtain ⟨fault, hm⟩ : ∃ fault, Deed.meet x.other fault ∈ done := by
      obtain hx | rfl := hx
      · exact h.cancelled x hx
      · obtain rfl | rfl := e.eq_or_eq_other x
        · exact hcancel rfl
        · exact absurd rfl hother
    exact ⟨fault, List.mem_append_left _ hm⟩
  shut x hx := by
    rw [List.mem_append, List.mem_singleton] at hx
    have hx : .shut x ∈ done := hx.resolve_right (Ne.symm (hshut x))
    obtain rfl | rfl := e.eq_or_eq_other x
    · exact absurd hx (h.not_shut ha)
    · rw [lane_setLane_other]
      exact h.shut _ hx
  returned hr := absurd hs (by simpa using hr)
  last := by
    refine h.last_concat fun x hx => ?_
    rw [hmove x hx]
    exact h.not_shut ha

theorem move {e : End} {l : Lane} (h : Ordered done p) (hs : p.stats = none)
    (hm : Lane.Moves (p.lane e) l) : Ordered (done ++ [.move e]) (p.setLane e l) :=
  h.of_alive hs hm.alive.1 (by simp [hm.alive.2]) (by simp) (by simp) (by simp) (by simp) (by simp)

theorem meet {e : End} {fault : Option Fault} (h : Ordered done p) (hs : p.stats = none)
    (hm : Lane.Meets (p.lane e) fault) :
    Ordered (done ++ [.meet e fault]) (p.setLane e ((p.lane e).ended fault)) :=
  h.of_alive hs hm.alive (by simp [Lane.ended, Copy.isAlive]) (by simp [Ne.symm e.other_ne])
    (by simp) (by simp) (by simp) (by simp)

theorem cancel {e : End} (h : Ordered done p) (hs : p.stats = none)
    (ha : (p.lane e).copy.isAlive = true) (ho : (p.lane e.other).copy.isAlive = false) :
    Ordered (done ++ [.cancel e]) (p.setLane e ((p.lane e).ended none)) := by
  have hmet : ∃ fault, Deed.meet e.other fault ∈ done := by
    -- the other copy was not cancelled, for this one had not ended
    obtain hm | hc := (h.ended e.other).1 ho
    · exact hm
    · obtain ⟨fault, hm⟩ := h.cancelled _ hc
      rw [End.other_other] at hm
      have := (h.ended e).2 (Or.inl ⟨fault, hm⟩)
      rw [ha] at this
      cases this
  exact h.of_alive hs ha (by simp [Lane.ended, Copy.isAlive]) (by simp)
    (by simp [Ne.symm e.other_ne]) (fun _ => hmet) (by simp) (by simp)

theorem shutdown {e : End} (h : Ordered done p) (hs : p.stats = none)
    (ho : (p.lane e).copy.isAlive = false) :
    Ordered (done ++ [.shut e]) (p.setLane e (p.lane e).shut) where
  ended := by
    refine forall_setLane (P := fun x l => l.copy.isAlive = false ↔ _) ?_ ?_
    · simpa [Lane.shut] using h.ended e
    · simpa using h.ended e.other
  cancelled x hx := by
    simpa using h.cancelled x (by simpa using hx)
  shut := by
    refine forall_setLane (P := fun x l => _ → l.copy.isAlive = false ∧ l.sink.closed = true) ?_ ?_
    · intro _
      exact ⟨ho, rfl⟩
    · intro hx
      exact h.shut e.other (by simpa using hx)
  returned hr := absurd hs (by simpa using hr)
  last := h.last_concat (fun x hx => by cases hx)

/-- To let go of both streams changes no copy and closes every channel. -/
theorem lane_release (p : Pipe) (e : End) : p.release.lane e =
    ⟨(p.lane e).copy, (p.lane e).source.close, (p.lane e).sink.close⟩ := by
  cases e <;> rfl

theorem release (h : Ordered done p) (hd : ∀ e, .shut e ∈ done) :
    Ordered (done ++ [.release]) p.release where
  ended e := by
    rw [lane_release]
    simpa using h.ended e
  cancelled x hx := by
    simpa using h.cancelled x (by simpa using hx)
  shut e hx := by
    rw [lane_release]
    exact ⟨(h.shut e (by simpa using hx)).1, rfl⟩
  returned _ e := by
    rw [lane_release]
    exact ⟨List.mem_append_left _ (hd e), rfl⟩
  last := h.last_concat (fun x hx => by cases hx)

/-- Every deed keeps the order. -/
theorem does {p' : Pipe} {d : Deed} (h : Ordered done p) (hd : Does done p d p') :
    Ordered (done ++ [d]) p' := by
  cases hd with
  | move hs hm => exact h.move hs hm
  | meet hs hm => exact h.meet hs hm
  | cancel hs ha ho => exact h.cancel hs ha ho
  | shut hs ho _ => exact h.shutdown hs ho
  | release _ hall => exact h.release hall

/-- What happens to the streams from outside keeps the order, for it opens no channel. -/
theorem outside {p' : Pipe} (h : Ordered done p) (hs : p'.stats = p.stats)
    (hl : ∀ e, (p'.lane e).copy = (p.lane e).copy ∧ (p.lane e).KeepsClosed (p'.lane e)) :
    Ordered done p' where
  ended e := by
    rw [(hl e).1]
    exact h.ended e
  cancelled := h.cancelled
  shut e hx := by
    rw [(hl e).1]
    exact ⟨(h.shut e hx).1, (hl e).2.2 (h.shut e hx).2⟩
  returned hr e := by
    rw [hs] at hr
    exact ⟨(h.returned hr e).1, (hl e).2.1 (h.returned hr e).2⟩
  last := h.last

/-- The copies of a pipe that has returned are both over. -/
theorem ended_of_returned (h : Ordered done p) (hs : p.stats ≠ none) (e : End) :
    (p.lane e).copy.isAlive = false := (h.shut e (h.returned hs e).1).1

end Ordered

/-! ## Settled pipes -/

variable {done : List Deed} {p : Pipe}

/-- The copies of a settled pipe that has not returned both go on. -/
theorem Settled.alive (h : Settled done p) (hs : p.stats = none) (e : End) :
    (p.lane e).copy.isAlive = true := by
  rw [← Bool.not_eq_false]
  intro ho
  -- the other copy is over too, or it could be cancelled
  have hover : ∀ x, (p.lane x).copy.isAlive = false := by
    intro x
    obtain rfl | rfl := e.eq_or_eq_other x
    · exact ho
    · rw [← Bool.not_eq_true]
      intro ha
      exact h _ _ (.cancel hs ha (by rwa [End.other_other]))
  have hshut : ∀ x, .shut x ∈ done :=
    fun x => Decidable.byContradiction fun hn => h _ _ (.shut hs (hover x) hn)
  exact h _ _ (.release hs hshut)

/-- A copy of a settled pipe that goes on is blocked. -/
theorem Settled.blocked (h : Settled done p) (hs : p.stats = none) (e : End) :
    (p.lane e).Blocked := by
  refine Lane.Stuck.blocked ⟨?_, ?_⟩ (h.alive hs e)
  · intro l hm
    exact h _ _ (.move hs hm)
  · intro fault hm
    exact h _ _ (.meet hs hm)

/-- A settled pipe has returned exactly when one of its copies has met the end of its source or a
fault. -/
theorem Settled.returned_iff_met (h : Settled done p) (ho : Ordered done p) :
    p.stats ≠ none ↔ ∃ e fault, .meet e fault ∈ done := by
  refine ⟨?_, ?_⟩
  · intro hs
    exact ho.met (ho.ended_of_returned hs .client)
  · rintro ⟨e, fault, hm⟩ hs
    have ha := h.alive hs e
    rw [(ho.ended e).2 (Or.inl ⟨fault, hm⟩)] at ha
    cases ha

end Tether.Relay.Pipe
