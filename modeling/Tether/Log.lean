/-!
The event log. Every part of the agent reports what it does as entries of one log, each with a
level, the part it comes from, a message and named values.
-/

namespace Tether

/-- How much an entry matters, from the least to the most. -/
inductive Level
  | trace
  | debug
  | info
  | warn
  | error
  deriving DecidableEq, Repr

/-- The name of a level. -/
def Level.text : Level → String
  | .trace => "TRACE"
  | .debug => "DEBUG"
  | .info => "INFO"
  | .warn => "WARN"
  | .error => "ERROR"

/-- The place of a level in the order of weight. -/
def Level.weight : Level → Nat
  | .trace => 0
  | .debug => 1
  | .info => 2
  | .warn => 3
  | .error => 4

/-- The parts that write to the log. -/
inductive Part
  | program
  | config
  | agent
  | supervisor
  | factory
  | liveness
  | livenessTask
  | relay
  | tracker
  | provisioner
  | direct
  deriving DecidableEq, Repr

/-- The name of a part in the log. -/
def Part.text : Part → String
  | .program => "overlink"
  | .config => "overlink::config"
  | .agent => "overlink_agent::agent"
  | .supervisor => "overlink_agent::supervisor"
  | .factory => "overlink_agent::factory"
  | .liveness => "overlink_agent::liveness"
  | .livenessTask => "overlink_agent::factory"
  | .relay => "overlink_agent::relay"
  | .tracker => "overlink_agent::connection"
  | .provisioner => "overlink_control::provisioner"
  | .direct => "overlink_overlay::direct"

/-- The name of a part with the mark of those that run as tasks of their own. -/
def Part.fullText (p : Part) : String :=
  match p with
  | .livenessTask => p.text ++ "/task"
  | _ => p.text

/-- One entry of the log. -/
structure Entry where
  level : Level
  part : Part
  message : String
  fields : List (String × String)
  deriving DecidableEq, Repr

end Tether
