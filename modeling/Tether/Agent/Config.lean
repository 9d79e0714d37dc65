import Tether.Agent.Error
import Tether.Text.Blank
import Tether.Time.Span

/-!
The configuration of the agent. It is sound when the host name and the control URL are not blank
and the health interval is not zero; of several faults the first in this order is reported.
-/

namespace Tether.Agent

open Tether.Text Tether.Time

/-- The overlay port of the liveness endpoint unless another is chosen. -/
def defaultLivenessPort : UInt16 := 80

/-- The time between health checks unless another is chosen. -/
def defaultHealthInterval : Span := .ofSeconds 5

/-- The time between attempts to get a key unless another is chosen. -/
def defaultKeyRetry : Span := .ofSeconds 5

/-- The host that relayed connections are dialed on unless another is chosen. -/
def defaultTargetHost : String := "localhost"

/-- The configuration of the agent. -/
structure Config where
  hostname : String := ""
  controlUrl : String := ""
  stateDir : String := "overlay"
  livenessPort : UInt16 := defaultLivenessPort
  healthInterval : Span := defaultHealthInterval
  keyRetry : Span := defaultKeyRetry
  targetHost : String := defaultTargetHost
  deriving DecidableEq, Repr

/-- The first fault of a configuration, if it has one. -/
def Config.fault? (c : Config) : Option String :=
  if isBlank c.hostname then some "hostname is empty"
  else if isBlank c.controlUrl then some "control_url is empty"
  else if c.healthInterval.isZero then some "health_interval must be greater than zero"
  else none

/-- Checks a configuration. -/
def Config.validate (c : Config) : Except Error Unit :=
  match c.fault? with
  | some reason => .error (.invalidConfig reason)
  | none => .ok ()

theorem Config.validate_eq_ok_iff (c : Config) :
    c.validate = .ok () ↔
      isBlank c.hostname = false ∧ isBlank c.controlUrl = false ∧
        c.healthInterval.isZero = false := by
  unfold validate fault?
  cases isBlank c.hostname <;> cases isBlank c.controlUrl <;> cases c.healthInterval.isZero <;> simp

end Tether.Agent
