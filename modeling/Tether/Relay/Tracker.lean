import Tether.Log
import Tether.Net.Endpoint

/-!
The book of active relays. Every relay gets a number of its own, one more than the last, and keeps
it for as long as it is in the book; the number of a relay that has left is never given again.
-/

namespace Tether.Relay

open Tether.Net

/-- One relay: who opened it, where the peer aimed, and the local address dialed for it. -/
structure Record where
  source : Endpoint
  destination : Endpoint
  target : String
  deriving DecidableEq, Repr

/-- A record as a row of texts. -/
def Record.row (r : Record) : List String := [r.source.text, r.destination.text, r.target]

/-- The book of active relays, oldest first. -/
structure Tracker where
  /-- The number given last. -/
  last : Nat
  relays : List (Nat × Record)
  deriving DecidableEq, Repr

namespace Tracker

/-- The book in which nothing was entered yet. -/
def empty : Tracker := ⟨0, []⟩

/-- The number of active relays. -/
def count (t : Tracker) : Nat := t.relays.length

/-- The active relays. -/
def records (t : Tracker) : List Record := t.relays.map Prod.snd

/-- The record under a number. -/
def get? (t : Tracker) (id : Nat) : Option Record := t.relays.lookup id

/-- Enters a relay under the next number. -/
def register (t : Tracker) (r : Record) : Tracker × Nat :=
  (⟨t.last + 1, t.relays ++ [(t.last + 1, r)]⟩, t.last + 1)

/-- Strikes out a number; one that is not in the book changes nothing. -/
def unregister (t : Tracker) (id : Nat) : Tracker :=
  { t with relays := t.relays.filter fun e => e.1 ≠ id }

/-- A row comes no later than another, text by text. -/
def rowLe : List String → List String → Bool
  | [], _ => true
  | _, [] => false
  | a :: as, b :: bs => if a < b then true else if b < a then false else rowLe as bs

/-- The active relays as rows in rising order. -/
def rows (t : Tracker) : List (List String) := (t.records.map Record.row).mergeSort rowLe

/-! ## What the log says -/

/-- The entries about a registration. -/
def registerEntries (t : Tracker) (r : Record) : List Entry := [
  ⟨.debug, .tracker, "Registering relay", [
    ("relay_id", toString (t.register r).2), ("source", r.source.text),
    ("local_target", r.target)]⟩,
  ⟨.debug, .tracker, "Relay registered", [("active_relays", toString (t.register r).1.count)]⟩]

/-- The entries about striking out a number. -/
def unregisterEntries (t : Tracker) (id : Nat) : List Entry :=
  match t.get? id with
  | some r => [⟨.debug, .tracker, "Relay unregistered", [
      ("relay_id", toString id), ("source", r.source.text), ("local_target", r.target),
      ("active_relays", toString (t.unregister id).count)]⟩]
  | none => [⟨.warn, .tracker, "Attempted to unregister unknown relay",
      [("relay_id", toString id)]⟩]

/-! ## Facts -/

@[simp] theorem last_register (t : Tracker) (r : Record) : (t.register r).1.last = t.last + 1 := rfl

@[simp] theorem last_unregister (t : Tracker) (id : Nat) : (t.unregister id).last = t.last := rfl

@[simp] theorem relays_register (t : Tracker) (r : Record) :
    (t.register r).1.relays = t.relays ++ [(t.last + 1, r)] := rfl

@[simp] theorem relays_unregister (t : Tracker) (id : Nat) :
    (t.unregister id).relays = t.relays.filter fun e => e.1 ≠ id := rfl

@[simp] theorem count_register (t : Tracker) (r : Record) :
    (t.register r).1.count = t.count + 1 := by simp [count]

end Tracker

end Tether.Relay
