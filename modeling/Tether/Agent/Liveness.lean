import Tether.Log
import Tether.Overlay.Error

/-!
The liveness endpoint. It takes one connection after another from its listener and hands each to a
responder of its own. After an accept that failed it pauses and tries again; only the end of its
session ends it.
-/

namespace Tether.Agent

open Tether.Overlay

/-- The pause after an accept that failed, in milliseconds. -/
def acceptPause : Nat := 100

/-- What a liveness endpoint is doing. -/
inductive Liveness
  /-- It waits for a connection. -/
  | accepting
  /-- It pauses until a time. -/
  | pausing (time : Nat)
  /-- It came to its end. -/
  | ended (cause : Overlay.Error)
  deriving DecidableEq, Repr

namespace Liveness

/-- What the log says when an endpoint begins. -/
def servingEntry (port : UInt16) : Entry :=
  ⟨.debug, .liveness, "Serving liveness endpoint", [("port", toString port.toNat)]⟩

/-- What the log says about an accept that failed. -/
def failedEntry (e : Overlay.Error) : Entry :=
  ⟨.trace, .liveness, "Liveness accept error", [("error", e.message)]⟩

/-- What the log says when the endpoint of a built session ends. -/
def stoppedEntry (e : Overlay.Error) : Entry :=
  ⟨.trace, .livenessTask, "Liveness endpoint stopped", [("error", e.message)]⟩

/-- What an accept that was waited for brings, at a time: the connection to hand on, and what the
endpoint does next. -/
def onAccept {Connection : Type} (now : Nat) :
    Except Overlay.Error Connection → Liveness × Option Connection × List Entry
  | .ok connection => (.accepting, some connection, [])
  | .error .closed => (.ended .closed, none, [])
  | .error e => (.pausing (now + acceptPause), none, [failedEntry e])

/-- An endpoint whose pause is over accepts again. -/
def wake (now : Nat) : Liveness → Liveness
  | .pausing t => if t ≤ now then .accepting else .pausing t
  | s => s

/-- The time at which a pause is over. -/
def due? : Liveness → Option Nat
  | .pausing t => some t
  | _ => none

/-- Takes the results of accepts that are there at a time, one after another, as long as the
endpoint accepts; what is left of them comes back. -/
def serve {Connection : Type} (now : Nat) :
    Liveness → List (Except Overlay.Error Connection) →
      Liveness × List Connection × List Entry
  | .accepting, r :: rest =>
    let (s, c, log) := onAccept now r
    let (s, cs, log') := serve now s rest
    (s, c.toList ++ cs, log ++ log')
  | s, _ => (s, [], [])

end Liveness

end Tether.Agent
