import Tether.Direct.Forward
import Tether.Net.Ip

/-!
Command line arguments. Every option has a long name and takes one value, in the next word or
behind an equals sign; `--config` has the short name `-c`. A switch takes no value. A value in the
next word is looked at only when the word after it is known to be sound, so an unknown word is
reported before a bad value in front of it. What the words leave open is taken from environment
variables, in the order of the options.
-/

namespace Tether.Config

open Tether.Direct Tether.Net Tether.Text

/-! ## Options -/

/-- An option with a value. -/
inductive Opt
  | hostname
  | controlUrl
  | apiUrl
  | apiKey
  | clientId
  | stateDir
  | healthInterval
  | keyRetry
  | apiTimeout
  | livenessPort
  | bindHost
  | forward
  | config
  | logLevel
  deriving DecidableEq, Repr

/-- The long name of an option. -/
def Opt.name : Opt → String
  | .hostname => "hostname"
  | .controlUrl => "control-url"
  | .apiUrl => "api-url"
  | .apiKey => "api-key"
  | .clientId => "client-id"
  | .stateDir => "state-dir"
  | .healthInterval => "health-interval"
  | .keyRetry => "credential-retry"
  | .apiTimeout => "api-timeout"
  | .livenessPort => "liveness-port"
  | .bindHost => "bind-host"
  | .forward => "forward-port"
  | .config => "config"
  | .logLevel => "log-level"

/-- All options. -/
def Opt.all : List Opt := [
  .hostname, .controlUrl, .apiUrl, .apiKey, .clientId, .stateDir, .healthInterval, .keyRetry,
  .apiTimeout, .livenessPort, .bindHost, .forward, .config, .logLevel]

/-- The word for an option's value. -/
def Opt.valueName : Opt → String
  | .forward => "LISTEN:OVERLAY"
  | o => String.ofList (o.name.toList.map fun c => if c = '-' then '_' else c.toUpper)

/-- How an option is shown. -/
def Opt.usage (o : Opt) : String := "--" ++ o.name ++ " <" ++ o.valueName ++ ">"

/-- A switch without a value. -/
inductive Switch
  | telemetry
  | help
  | version
  deriving DecidableEq, Repr

/-- The long name of a switch. -/
def Switch.name : Switch → String
  | .telemetry => "telemetry"
  | .help => "help"
  | .version => "version"

/-- How a switch is shown. -/
def Switch.usage (s : Switch) : String := "--" ++ s.name

/-- An option or a switch. -/
inductive Flag
  | opt (o : Opt)
  | switch (s : Switch)

/-- The option or switch of a long name. -/
def Flag.ofLong? (name : String) : Option Flag :=
  match Opt.all.find? fun o => o.name == name with
  | some o => some (.opt o)
  | none => ([.telemetry, .help, .version].find? fun s => Switch.name s == name).map .switch

/-- The option or switch of a short name. -/
def Flag.ofShort? : Char → Option Flag
  | 'c' => some (.opt .config)
  | 'h' => some (.switch .help)
  | 'V' => some (.switch .version)
  | _ => none

/-! ## Errors -/

/-- Why the words are no arguments, or what they ask for instead of a run. -/
inductive ArgsError
  /-- A word that nothing is known by. -/
  | unknown (word : String)
  /-- An option or variable without a value that could be meant. -/
  | badChoice (shown : String)
  /-- A value that does not read. -/
  | badValue (shown : String) (reason : String)
  /-- An option or switch that is given again. -/
  | repeated (shown : String)
  /-- A switch with a value. -/
  | needlessValue (shown : String)
  /-- The help is asked for. -/
  | help
  /-- The version is asked for, in the short or the long form. -/
  | version (long : Bool)
  deriving DecidableEq, Repr

namespace ArgsError

/-- The name of the kind of a fault. -/
def kind : ArgsError → String
  | .unknown _ => "UnknownArgument"
  | .badChoice _ => "InvalidValue"
  | .badValue _ _ => "ValueValidation"
  | .repeated _ => "ArgumentConflict"
  | .needlessValue _ => "TooManyValues"
  | .help => "DisplayHelp"
  | .version _ => "DisplayVersion"

/-- The argument that a fault is about, as it is shown. -/
def argument? : ArgsError → Option String
  | .unknown shown => some shown
  | .badChoice shown => some shown
  | .badValue shown _ => some shown
  | .repeated shown => some shown
  | .needlessValue shown => some shown
  | .help => none
  | .version _ => none

end ArgsError

/-! ## Arguments -/

/-- What the arguments set. -/
structure Args where
  hostname : Option String := none
  controlUrl : Option String := none
  apiUrl : Option String := none
  apiKey : Option String := none
  clientId : Option String := none
  telemetry : Bool := false
  stateDir : Option String := none
  healthInterval : Option UInt64 := none
  keyRetry : Option UInt64 := none
  apiTimeout : Option UInt64 := none
  livenessPort : Option UInt16 := none
  bindHost : Option Ip := none
  forwards : List Forward := []
  config : Option String := none
  logLevel : Option String := none
  deriving DecidableEq, Repr

/-- Reads a path, which may not be empty. -/
def readPath (o : Opt) (v : String) : Except ArgsError String :=
  if v = "" then .error (.badChoice o.usage) else .ok v

/-- Reads a number of seconds. -/
def readSeconds (o : Opt) (v : String) : Except ArgsError UInt64 :=
  match readWord v with
  | .ok n => .ok n.toUInt64
  | .error fault => .error (.badValue o.usage fault.message)

/-- The largest number of 63 bits. -/
def maxSigned : Nat := 9223372036854775807

/-- Reads a port. The value is read as a signed number of 64 bits first, so only a number out of
that range is too large or too small in itself; any other one is held against the range of ports. -/
def readPortValue (o : Opt) (v : String) : Except ArgsError UInt16 :=
  let outside (text : String) : Except ArgsError UInt16 :=
    .error (.badValue o.usage (text ++ " is not in 0..=65535"))
  match v.toList with
  | '-' :: d :: ds =>
    if d = '+' then .error (.badValue o.usage NumeralFault.wrongDigit.message)
    else
      match readNumeral 10 (maxSigned + 1) (d :: ds) with
      | .ok 0 => .ok 0
      | .ok n => outside ("-" ++ toString n)
      | .error .tooLarge => .error (.badValue o.usage "number too small to fit in target type")
      | .error fault => .error (.badValue o.usage fault.message)
  | cs =>
    match readNumeral 10 maxSigned cs with
    | .ok n => if n ≤ maxPort then .ok n.toUInt16 else outside (toString n)
    | .error fault => .error (.badValue o.usage fault.message)

/-- Reads an address. -/
def readAddressValue (o : Opt) (v : String) : Except ArgsError Ip :=
  match Ip.parse? v with
  | some ip => .ok ip
  | none => .error (.badValue o.usage Ip.fault)

/-- Reads a forward. -/
def readForward (o : Opt) (v : String) : Except ArgsError Forward :=
  (Forward.parse v).mapError fun e => .badValue o.usage e.message

/-- Sets what may be set only once. -/
def once (o : Opt) (old : Option α) (value : Except ArgsError α) (set : α → Args) :
    Except ArgsError Args :=
  if old.isSome then .error (.repeated o.usage) else set <$> value

/-- Sets an option. -/
def Args.put (a : Args) (o : Opt) (v : String) : Except ArgsError Args :=
  match o with
  | .hostname => once o a.hostname (.ok v) fun x => { a with hostname := some x }
  | .controlUrl => once o a.controlUrl (.ok v) fun x => { a with controlUrl := some x }
  | .apiUrl => once o a.apiUrl (.ok v) fun x => { a with apiUrl := some x }
  | .apiKey => once o a.apiKey (.ok v) fun x => { a with apiKey := some x }
  | .clientId => once o a.clientId (.ok v) fun x => { a with clientId := some x }
  | .stateDir => once o a.stateDir (readPath o v) fun x => { a with stateDir := some x }
  | .healthInterval =>
    once o a.healthInterval (readSeconds o v) fun x => { a with healthInterval := some x }
  | .keyRetry => once o a.keyRetry (readSeconds o v) fun x => { a with keyRetry := some x }
  | .apiTimeout => once o a.apiTimeout (readSeconds o v) fun x => { a with apiTimeout := some x }
  | .livenessPort =>
    once o a.livenessPort (readPortValue o v) fun x => { a with livenessPort := some x }
  | .bindHost => once o a.bindHost (readAddressValue o v) fun x => { a with bindHost := some x }
  | .forward => (fun x => { a with forwards := a.forwards ++ [x] }) <$> readForward o v
  | .config => once o a.config (readPath o v) fun x => { a with config := some x }
  | .logLevel => once o a.logLevel (.ok v) fun x => { a with logLevel := some x }

/-- Turns a switch on. -/
def Args.turnOn (a : Args) (s : Switch) (long : Bool) : Except ArgsError Args :=
  match s with
  | .telemetry =>
    if a.telemetry then .error (.repeated s.usage) else .ok { a with telemetry := true }
  | .help => .error .help
  | .version => .error (.version long)

/-! ## Words -/

/-- The words read so far. -/
structure Words where
  args : Args := {}
  /-- The option that the last word named, and its value if it has one by now. -/
  waiting : Option (Opt × Option String) := none

/-- Sets the option that waits. -/
def Words.settle (w : Words) : Except ArgsError Args :=
  match w.waiting with
  | none => .ok w.args
  | some (o, none) => .error (.badChoice o.usage)
  | some (o, some v) => w.args.put o v

/-- Takes an option with the value behind it, if there is one. -/
def Words.option (w : Words) (o : Opt) (value : Option String) : Except ArgsError Words := do
  let args ← w.settle
  match value with
  | some v => return { args := ← args.put o v }
  | none => return { args := args, waiting := some (o, none) }

/-- Takes a switch. -/
def Words.switch (w : Words) (s : Switch) (long : Bool) : Except ArgsError Words := do
  return { args := ← (← w.settle).turnOn s long }

/-- The characters of a word up to its first equals sign, and those after it. -/
def splitEquals (cs : List Char) : List Char × Option (List Char) :=
  match cs.dropWhile (· ≠ '=') with
  | [] => (cs, none)
  | _ :: value => (cs.takeWhile (· ≠ '='), some value)

/-- Takes a word that begins with two hyphens. -/
def Words.long (w : Words) (cs : List Char) : Except ArgsError Words :=
  let (name, value) := splitEquals cs
  match Flag.ofLong? (String.ofList name), value with
  | none, _ => .error (.unknown ("--" ++ String.ofList name))
  | some (.opt o), _ => w.option o (value.map String.ofList)
  | some (.switch s), none => w.switch s true
  | some (.switch s), some _ => .error (.needlessValue s.usage)

/-- Takes the short names of a word that begins with one hyphen. -/
def Words.short (w : Words) : List Char → Except ArgsError Words
  | [] => .ok w
  | c :: rest =>
    match Flag.ofShort? c, rest with
    | none, _ => .error (.unknown (String.ofList ['-', c]))
    | some (.switch s), _ => do (← w.switch s false).short rest
    | some (.opt o), [] => w.option o none
    | some (.opt o), '=' :: value => w.option o (some (String.ofList value))
    | some (.opt o), value => w.option o (some (String.ofList value))

/-- Takes all words. Behind the word of two hyphens no option and no value may follow. -/
def Words.read (w : Words) (ended : Bool) : List String → Except ArgsError Words
  | [] => .ok w
  | word :: rest =>
    if ended then .error (.unknown word)
    else
      match word.toList with
      | ['-', '-'] => w.read true rest
      | '-' :: '-' :: cs => do (← w.long cs).read false rest
      | '-' :: c :: cs => do (← w.short (c :: cs)).read false rest
      | _ =>
        match w.waiting with
        | some (o, none) => { w with waiting := some (o, some word) }.read false rest
        | _ => .error (.unknown word)

/-! ## Environment -/

/-- Environment variables, as assignments of names. -/
abbrev Environment := List (String × String)

/-- The value of a variable: what follows the first assignment that begins with the name and an
equals sign. -/
def Environment.get? (env : Environment) (name : String) : Option String :=
  if name = "" ∨ name.toList.contains '\x00' then none
  else
    env.findSome? fun e =>
      let line := (e.1 ++ "=" ++ e.2).toList
      let front := (name ++ "=").toList
      if front.isPrefixOf line then some (String.ofList (line.drop front.length)) else none

/-- The variable that stands in for an option. -/
def Opt.variable? : Opt → Option String
  | .hostname => some "OVERLINK_HOSTNAME"
  | .controlUrl => some "OVERLINK_CONTROL_URL"
  | .apiUrl => some "OVERLINK_API_URL"
  | .apiKey => some "OVERLINK_API_KEY"
  | .clientId => some "OVERLINK_CLIENT_ID"
  | .stateDir => some "OVERLINK_STATE_DIR"
  | _ => none

/-- The variable that stands in for the telemetry switch. -/
def telemetryVariable : String := "OVERLINK_TELEMETRY"

/-- An option is given. -/
def Args.has (a : Args) : Opt → Bool
  | .hostname => a.hostname.isSome
  | .controlUrl => a.controlUrl.isSome
  | .apiUrl => a.apiUrl.isSome
  | .apiKey => a.apiKey.isSome
  | .clientId => a.clientId.isSome
  | .stateDir => a.stateDir.isSome
  | .healthInterval => a.healthInterval.isSome
  | .keyRetry => a.keyRetry.isSome
  | .apiTimeout => a.apiTimeout.isSome
  | .livenessPort => a.livenessPort.isSome
  | .bindHost => a.bindHost.isSome
  | .forward => !a.forwards.isEmpty
  | .config => a.config.isSome
  | .logLevel => a.logLevel.isSome

/-- Takes an option from its variable, unless it is given. -/
def Args.fill (env : Environment) (a : Args) (o : Opt) : Except ArgsError Args :=
  match o.variable?.bind env.get? with
  | some v => if a.has o then .ok a else a.put o v
  | none => .ok a

/-- Takes the telemetry switch from its variable, unless it is on. -/
def Args.fillTelemetry (env : Environment) (a : Args) : Except ArgsError Args :=
  if a.telemetry then .ok a
  else
    match env.get? telemetryVariable with
    | none => .ok a
    | some "true" => .ok { a with telemetry := true }
    | some "false" => .ok a
    | some _ => .error (.badChoice Switch.telemetry.usage)

/-- Reads the arguments from the words behind the program's name and from the environment. -/
def Args.read (env : Environment) (words : List String) : Except ArgsError Args := do
  let w ← ({} : Words).read false words
  let a ← w.settle
  let a ← [Opt.hostname, .controlUrl, .apiUrl, .apiKey, .clientId].foldlM (Args.fill env) a
  let a ← a.fillTelemetry env
  a.fill env .stateDir

/-- The level of the log. -/
def Args.level (a : Args) : String := a.logLevel.getD "info"

end Tether.Config
