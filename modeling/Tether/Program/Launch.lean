import Tether.Agent.Handle
import Tether.Config.Settings
import Tether.Control.Exchange
import Tether.Program.Filter
import Tether.Program.Report
import Tether.Relay.Tracker

/-!
The course of a run: arguments, log filter, settings, and the client of the control plane, in this
order. The first of them that fails ends the run. A run that gets through all starts its agent,
which first waits for a key; once its first session is up it runs until it is interrupted.
-/

namespace Tether.Program

open Tether.Config Tether.Text

/-- The name of the program. -/
def name : String := "overlink"

/-- The version of the program. -/
def version : String := "0.1.0"

/-- The commit that the program was built from. -/
def commit : String := "unknown"

/-! ## Help -/

/-- What the version switch prints. -/
def versionText (long : Bool) : String :=
  name ++ " " ++ version ++ "\n" ++ (if long then "Commit: " ++ commit ++ "\n" else "")

/-- What an option is for. -/
def helpOn : Opt → String
  | .hostname => "Node name on the overlay (default: overlink-<random>)"
  | .controlUrl => "Overlay control server URL"
  | .apiUrl => "Control-plane API URL issuing network keys"
  | .apiKey => "Control-plane API key"
  | .clientId => "Client identifier sent to the API (default: random UUID)"
  | .stateDir => "Overlay client state directory"
  | .healthInterval => "Seconds between health checks"
  | .keyRetry => "Seconds between failed network key requests"
  | .apiTimeout => "Timeout in seconds for control-plane API requests (default: none)"
  | .livenessPort => "Overlay port of the liveness endpoint"
  | .bindHost => "Address the direct backend binds its sockets on"
  | .forward => "Local port relayed as an overlay port, LISTEN:OVERLAY (repeatable)"
  | .config => "Configuration file (YAML)"
  | .logLevel => "Log level (trace, debug, info, warn, error) [default: info]"

/-- What the help switch prints. -/
def helpText : String :=
  let about := "Overlink agent - joins the overlay and relays inbound traffic to local ports\n\n"
  let row (usage help : String) : String := "      " ++ usage ++ "\n          " ++ help ++ "\n"
  about ++ "Usage: " ++ name ++ " [OPTIONS]\n\nOptions:\n" ++
    joinWith "" (Opt.all.map fun o => row o.usage (helpOn o)) ++
    row Switch.telemetry.usage "Report telemetry to the control plane" ++
    row "-h, --help" "Print help" ++ row "-V, --version" "Print version"

/-- The wording of a fault in the arguments. -/
def usageText (e : ArgsError) : String :=
  let what := match e with
    | .unknown word => "unexpected argument '" ++ word ++ "' found"
    | .badChoice shown => "a value is required for '" ++ shown ++ "' but none was supplied"
    | .badValue shown reason => "invalid value for '" ++ shown ++ "': " ++ reason
    | .repeated shown => "the argument '" ++ shown ++ "' cannot be used multiple times"
    | .needlessValue shown => "unexpected value for '" ++ shown ++ "' found; no more were expected"
    | .help => ""
    | .version _ => ""
  "error: " ++ what ++ "\n\nUsage: " ++ name ++ " [OPTIONS]\n\n" ++
    "For more information, try '--help'.\n"

/-! ## Runs -/

/-- What a run works with once it is launched. -/
structure Launched where
  settings : Settings
  client : Control.Client
  filter : Filter
  deriving DecidableEq, Repr

/-- What a run has come to. -/
inductive Outcome
  | exited (code : Nat)
  /-- It waits for its first session. -/
  | waiting (run : Launched)
  /-- Its agent is up. -/
  | running (run : Launched)

/-- A run, by what it has printed and what it has come to. -/
structure Run where
  /-- The log entries that were shown. -/
  log : List Entry := []
  /-- What was printed besides the log. -/
  out : String := ""
  errors : String := ""
  outcome : Outcome

/-- An entry of the program itself. -/
def note (message : String) : Entry := ⟨.info, .program, message, []⟩

/-- The first entry of a run. -/
def openingEntry : Entry :=
  note ("Overlink " ++ version ++ " (" ++ commit ++ ") starting...")

/-- The entries about the settings; the API key is not among them. -/
def settingsEntries (s : Settings) : List Entry := [
  note ("Hostname: " ++ s.agent.hostname),
  note ("Control URL: " ++ s.agent.controlUrl),
  note ("API URL: " ++ s.control.apiUrl),
  note ("State directory: " ++ s.agent.stateDir)]

/-- The entry about an interruption before the first session. -/
def interruptedEntry : Entry := note "Received Ctrl+C before the first session came up"

/-- The run that the arguments end. -/
def Run.ofArgsError : ArgsError → Run
  | .help => { out := helpText, outcome := .exited 0 }
  | .version long => { out := versionText long, outcome := .exited 0 }
  | e => { errors := usageText e, outcome := .exited 2 }

/-- The run that a fault ends. -/
def Run.failed (log : List Entry) (message : String) (reasons : List String) : Run :=
  { log := log, errors := report message reasons, outcome := .exited 1 }

/-- The variable that holds a filter. -/
def filterVariable : String := "RUST_LOG"

/-- The filter of a run: that of the variable if it reads, else that of the argument. -/
def chooseFilter (env : Environment) (level : String) : Option Filter :=
  ((env.get? filterVariable).bind Filter.parse?).orElse fun _ => Filter.parse? level

/-- Starts a run. -/
def launch (disk : Disk) (around : Surroundings) (draws : Draws) (words : List String) : Run :=
  match Args.read around.env words with
  | .error e => .ofArgsError e
  | .ok args =>
    match chooseFilter around.env args.level with
    | none =>
      .failed [] ("Invalid log level: " ++ args.level) ["invalid filter directive"]
    | some filter =>
      let shown (entries : List Entry) : List Entry := entries.filter filter.shows
      match Settings.load disk around draws args with
      | (entries, .error e) =>
        .failed (shown (openingEntry :: entries)) "Failed to build configuration"
          (e.message :: e.cause?.toList)
      | (entries, .ok s) =>
        let entries := openingEntry :: entries ++ settingsEntries s
        match Control.Client.ofConfig s.control with
        | .error e =>
          .failed (shown entries) "Failed to create control-plane client" [e.message]
        | .ok client =>
          match s.agent.validate with
          | .error e => .failed (shown entries) "Failed to create agent" [e.message]
          | .ok () =>
            { log := shown (entries ++ [Agent.startingEntry s.agent])
              outcome := .waiting ⟨s, client, filter⟩ }

/-! ## After the launch -/

/-- The first session of a run comes up. -/
def Run.established (r : Run) : Run :=
  match r.outcome with
  | .waiting w =>
    { r with log := r.log ++ [note "Agent running"].filter w.filter.shows, outcome := .running w }
  | _ => r

/-- The first session of a run does not come up. -/
def Run.notEstablished (r : Run) (e : Agent.Error) : Run :=
  match r.outcome with
  | .waiting _ =>
    .failed r.log "Failed to establish the first overlay session" [e.message]
  | _ => r

/-- The entries about an interruption while relays are active: each is dropped. -/
def droppingEntries (active : List Relay.Record) : List Entry :=
  { note "Received Ctrl+C, shutting down..." with
    fields := [("active_relays", toString active.length)] } ::
  active.map fun r => { note "Dropping active relay" with
    fields := [("source", r.source.text), ("local_target", r.target)] }

/-- Interrupts a run, with these relays active. -/
def Run.interrupt (r : Run) (active : List Relay.Record := []) : Run :=
  match r.outcome with
  | .exited _ => r
  | .waiting w =>
    { r with log := r.log ++ [interruptedEntry].filter w.filter.shows, outcome := .exited 0 }
  | .running w =>
    let entries := droppingEntries active ++ [note "Agent stopped"]
    { r with log := r.log ++ entries.filter w.filter.shows, outcome := .exited 0 }

/-- The exit code of a run that has ended. -/
def Run.exit? (r : Run) : Option Nat :=
  match r.outcome with
  | .exited code => some code
  | _ => none

end Tether.Program
