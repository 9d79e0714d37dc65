import Mathlib.Data.List.Perm.Basic
import Tether.Proofs.Lists
import Tether.Relay.Board

/-!
The book of relays and the board. The book holds exactly the connections that the board relays, each
under a number of its own (`Booked`). A connection that is dialed is not in it yet; behind a dial
that succeeds it is entered under the next number, and it is struck out under that number when its
pipe returns, at once or after its peer or its service has acted. Whatever the board does to one
connection, the book follows and no other connection is touched (`Board.Turns`).
-/

namespace Tether.Relay

open Tether.Net
open scoped List

/-! ## The book and the connections that are relayed -/

/-- What the book holds of a connection. -/
def Connection.entry? (c : Connection) : Option (Nat × Record) :=
  match c.stage, c.record with
  | .relaying (some id) _, some r => some (id, r)
  | _, _ => none

theorem Connection.entry?_relaying (record : Option Record) (address : String) (id : Option Nat)
    (p q : Pipe) : Connection.entry? ⟨record, address, .relaying id p⟩ =
      Connection.entry? ⟨record, address, .relaying id q⟩ := by
  cases id <;> cases record <;> rfl

/-- The book holds the connections that are relayed, each under a number of its own. -/
structure Booked (t : Tracker) (cs : List Connection) : Prop where
  entries : t.relays.Perm (cs.filterMap Connection.entry?)
  nodup : (t.relays.map Prod.fst).Nodup
  /-- No number is in use that was not given yet. -/
  given : ∀ x ∈ t.relays, x.1 ≤ t.last

namespace Booked

variable {t : Tracker} {cs front back : List Connection} {c c' : Connection} {id : Nat} {r : Record}

theorem empty : Booked .empty [] where
  entries := .nil
  nodup := .nil
  given _ h := absurd h List.not_mem_nil

/-- A connection that is dialed is not in the book yet. -/
theorem take (h : Booked t cs) (hc : c.entry? = none) : Booked t (cs ++ [c]) where
  entries := by
    rw [List.filterMap_append, List.filterMap_cons_none hc, List.filterMap_nil, List.append_nil]
    exact h.entries
  nodup := h.nodup
  given := h.given

/-- A connection whose entry stays. -/
theorem keep (h : Booked t (front ++ c :: back)) (hc : c'.entry? = c.entry?) :
    Booked t (front ++ c' :: back) where
  entries := by
    rw [List.filterMap_append, List.filterMap_cons, hc, ← List.filterMap_cons,
      ← List.filterMap_append]
    exact h.entries
  nodup := h.nodup
  given := h.given

/-- A connection is entered under the next number. -/
theorem register (h : Booked t (front ++ c :: back)) (hc : c.entry? = none)
    (hc' : c'.entry? = some (t.last + 1, r)) :
    Booked (t.register r).1 (front ++ c' :: back) where
  entries := by
    have he := h.entries
    rw [List.filterMap_append, List.filterMap_cons_none hc] at he
    rw [Tracker.relays_register, List.filterMap_append, List.filterMap_cons_some hc']
    calc t.relays ++ [(t.last + 1, r)]
      _ ~ (t.last + 1, r) :: t.relays := List.perm_append_singleton _ _
      _ ~ (t.last + 1, r) :: (front.filterMap _ ++ back.filterMap _) := he.cons _
      _ ~ front.filterMap _ ++ (t.last + 1, r) :: back.filterMap _ := List.perm_middle.symm
  nodup := by
    rw [Tracker.relays_register, List.map_append, List.map_singleton, List.nodup_append]
    refine ⟨h.nodup, List.pairwise_singleton _ _, ?_⟩
    intro a ha b hb
    obtain ⟨x, hx, rfl⟩ := List.mem_map.1 ha
    rw [List.mem_singleton] at hb
    have hle := h.given x hx
    omega
  given x hx := by
    rw [Tracker.relays_register, List.mem_append, List.mem_singleton] at hx
    rw [Tracker.last_register]
    rcases hx with hx | rfl
    · have hle := h.given x hx
      omega
    · exact Nat.le_refl _

/-- A connection is struck out under its number, and no other is. -/
theorem unregister (h : Booked t (front ++ c :: back)) (hc : c.entry? = some (id, r))
    (hc' : c'.entry? = none) : Booked (t.unregister id) (front ++ c' :: back) where
  entries := by
    have he := h.entries
    rw [List.filterMap_append, List.filterMap_cons_some hc] at he
    have he := he.trans List.perm_middle
    have hnodup := (he.map Prod.fst).nodup_iff.1 h.nodup
    rw [List.map_cons, List.nodup_cons] at hnodup
    have hrest : (front.filterMap Connection.entry? ++ back.filterMap Connection.entry?).filter
        (fun x => x.1 ≠ id) =
        front.filterMap Connection.entry? ++ back.filterMap Connection.entry? := by
      refine List.filter_eq_self.2 fun x hx => ?_
      rw [decide_eq_true_eq]
      intro hid
      apply hnodup.1
      exact List.mem_map.2 ⟨x, hx, hid⟩
    rw [Tracker.relays_unregister, List.filterMap_append, List.filterMap_cons_none hc']
    have hf := he.filter fun x => x.1 ≠ id
    rw [List.filter_cons_of_neg (by simp), hrest] at hf
    exact hf
  nodup := h.nodup.sublist ((List.filter_sublist).map _)
  given x hx := h.given x (List.mem_of_mem_filter hx)

end Booked

/-! ## What the board does to one connection -/

/-- The dial behind a stage succeeded: its pipe goes on, in the book, or has returned. -/
def Stage.Answered : Stage → Prop
  | .dialing _ => False
  | .relaying id p => id.isSome ∧ p.stats = none
  | .ended outcome _ => ∃ stats, outcome = .ok stats

namespace Board

variable {b b' : Board} {c : Connection} {i : Nat} {st : Stage}

/-- One connection comes to a stage, and the book follows. -/
structure Turns (b : Board) (i : Nat) (st : Stage) (b' : Board) : Prop where
  connections : b'.connections = (b.setStage i st).connections
  booked : Booked b'.tracker b'.connections

/-- A connection comes to a stage at which the book holds the same of it. -/
theorem turns_keep (h : b.connections[i]? = some c) (hb : Booked b.tracker b.connections)
    (he : Connection.entry? { c with stage := st } = c.entry?) :
    b.Turns i st (b.setStage i st) := by
  refine ⟨rfl, ?_⟩
  obtain ⟨front, back, heq, -, hm⟩ := exists_split h
  rw [heq] at hb
  unfold setStage
  rw [hm]
  exact hb.keep he

/-- When a pipe has done all it can, its connection goes on, or it is over and leaves the book. -/
theorem turns_finish {id : Option Nat} {p : Pipe} (h : b.connections[i]? = some c)
    (hr : c.record.isSome) (hid : id.isSome)
    (hb : Booked b.tracker (b.setStage i (.relaying id p)).connections) (c' : Connection) :
    ∃ st, b.Turns i st (b.finish i c' id p) ∧ st.Answered := by
  obtain ⟨r, hr⟩ := Option.isSome_iff_exists.1 hr
  obtain ⟨n, rfl⟩ := Option.isSome_iff_exists.1 hid
  obtain ⟨front, back, heq, -, hm⟩ := exists_split h
  unfold finish
  cases hp : p.stats with
  | none => exact ⟨_, ⟨rfl, hb⟩, hid, hp⟩
  | some stats =>
    have hout : Booked (b.tracker.unregister n)
        (b.setStage i (.ended (.ok stats) p.inbound)).connections := by
      unfold setStage at hb ⊢
      rw [hm] at hb ⊢
      have he : Connection.entry? { c with stage := .relaying (some n) p } = some (n, r) := by
        simp [Connection.entry?, hr]
      exact hb.unregister he rfl
    exact ⟨_, ⟨rfl, hout⟩, stats, rfl⟩

/-- Behind a dial that succeeds a connection is entered in the book. -/
theorem turns_connected (h : b.connections[i]? = some c) (hd : c.isDialing = true)
    (hr : c.record.isSome) (hb : Booked b.tracker b.connections) (capacity : Nat) :
    ∃ st, b.Turns i st (b.connected i capacity) ∧ st.Answered := by
  obtain ⟨record, address, stage⟩ := c
  obtain ⟨r, rfl⟩ := Option.isSome_iff_exists.1 hr
  cases stage with
  | dialing d =>
    unfold connected
    rw [h]
    dsimp only
    have hreg (p : Pipe) : Booked (b.tracker.register r).1
        (b.setStage i (.relaying (some (b.tracker.last + 1)) p)).connections := by
      obtain ⟨front, back, heq, -, hm⟩ := exists_split h
      rw [heq] at hb
      unfold setStage
      rw [hm]
      exact hb.register rfl rfl
    obtain ⟨st, ht, ha⟩ := turns_finish
      (b := { b with
        tracker := (b.tracker.register r).1, log := b.log ++ b.tracker.registerEntries r })
      h rfl rfl (hreg _) _
    exact ⟨st, ⟨ht.connections, ht.booked⟩, ha⟩
  | relaying id p => cases hd
  | ended outcome d => cases hd

/-- Behind a dial that fails a connection is over, and was never in the book. -/
theorem turns_unreachable {d : Duplex} (h : b.connections[i]? = some c) (hd : c.stage = .dialing d)
    (hb : Booked b.tracker b.connections) (fault : Fault) :
    b.Turns i (.ended (.error ⟨c.address, fault⟩) (d.drop .acceptor)) (b.unreachable i fault) := by
  obtain ⟨record, address, stage⟩ := c
  cases hd
  unfold unreachable
  rw [h]
  have ht : b.Turns i (.ended (.error ⟨address, fault⟩) (d.drop .acceptor)) (b.setStage i _) :=
    turns_keep h hb rfl
  exact ⟨ht.connections, ht.booked⟩

theorem connected_of_not_dialing (h : b.connections[i]?.any Connection.isDialing = false)
    (capacity : Nat) : b.connected i capacity = b := by
  unfold connected
  split
  · rename_i hc
    rw [hc] at h
    cases h
  · rfl

theorem unreachable_of_not_dialing (h : b.connections[i]?.any Connection.isDialing = false)
    (fault : Fault) : b.unreachable i fault = b := by
  unfold unreachable
  split
  · rename_i hc
    rw [hc] at h
    cases h
  · rfl

/-- What the peer does to the stream of a connection, the pipe reacts to. -/
theorem turns_peer {α : Type} (h : b.connections[i]? = some c) (hr : c.record.isSome)
    (hb : Booked b.tracker b.connections) (act : Duplex → Duplex × α) :
    (b.peer i act).2 = some (act c.inbound).2 ∧
      match c.stage with
      | .dialing d => b.Turns i (.dialing (act d).1) (b.peer i act).1
      | .ended outcome d => b.Turns i (.ended outcome (act d).1) (b.peer i act).1
      | .relaying id _ => id.isSome → ∃ st, b.Turns i st (b.peer i act).1 ∧ st.Answered := by
  obtain ⟨record, address, stage⟩ := c
  unfold peer
  rw [h]
  cases stage with
  | dialing d => exact ⟨rfl, turns_keep h hb rfl⟩
  | ended outcome d => exact ⟨rfl, turns_keep h hb rfl⟩
  | relaying id p =>
    refine ⟨rfl, fun hid => turns_finish h hr hid ?_ _⟩
    exact (turns_keep h hb (Connection.entry?_relaying ..)).booked

/-- What the service does to its stream, the pipe reacts to. -/
theorem turns_service {α : Type} {id : Option Nat} {p : Pipe} (h : b.connections[i]? = some c)
    (hs : c.stage = .relaying id p) (hid : id.isSome) (hr : c.record.isSome)
    (hb : Booked b.tracker b.connections) (act : Duplex → Duplex × α) :
    ∃ st, b.Turns i st (b.service i act).1 ∧ st.Answered := by
  obtain ⟨record, address, stage⟩ := c
  cases hs
  unfold service
  rw [h]
  refine turns_finish h hr hid ?_ _
  exact (turns_keep h hb (Connection.entry?_relaying ..)).booked

end Board

end Tether.Relay
