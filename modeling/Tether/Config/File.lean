import Tether.Net.Fault
import Tether.Net.Ip
import Tether.Yaml.Value

/-!
The configuration file. Every setting is optional in it; fields that it does not know are ignored.
The entries of the forward list are kept as texts, since they are read only where they count.
-/

namespace Tether.Config

open Tether.Net Tether.Text Tether.Yaml

/-- The part of the file about the control plane. -/
structure ApiFile where
  url : Option String := none
  /-- The name of the environment variable that holds the API key. -/
  keyEnv : Option String := none
  key : Option String := none
  clientId : Option String := none
  telemetry : Option Bool := none
  timeoutSecs : Option UInt64 := none
  deriving DecidableEq, Repr

/-- The part of the file about the direct backend. -/
structure DirectFile where
  bindHost : Option Ip := none
  forwards : List String := []
  deriving DecidableEq, Repr

/-- A configuration file. -/
structure File where
  hostname : Option String := none
  controlUrl : Option String := none
  api : ApiFile := {}
  stateDir : Option String := none
  healthIntervalSecs : Option UInt64 := none
  keyRetrySecs : Option UInt64 := none
  livenessPort : Option UInt16 := none
  direct : DirectFile := {}
  deriving DecidableEq, Repr

section Reading

variable (d : Document)

/-- Reads an optional text. -/
def readText? (fields : List (String × Node)) (name : String) : Except Yaml.Fault (Option String) :=
  Document.fieldOr fields name none (d.optional d.text)

/-- Reads an optional number of seconds. -/
def readSeconds? (fields : List (String × Node)) (name : String) :
    Except Yaml.Fault (Option UInt64) :=
  Document.fieldOr fields name none (d.optional fun n => Nat.toUInt64 <$> d.number maxWord n)

/-- Reads an address. -/
def readIp (n : Node) : Except Yaml.Fault Ip := do
  match Ip.parse? (← d.text n) with
  | some ip => return ip
  | none => throw (.wrongShape "an IP address")

/-- Reads the part about the control plane. -/
def readApi (n : Node) : Except Yaml.Fault ApiFile := do
  let fields ← d.fields n
  return {
    url := ← readText? d fields "url"
    keyEnv := ← readText? d fields "key_env"
    key := ← readText? d fields "key"
    clientId := ← readText? d fields "client_id"
    telemetry := ← Document.fieldOr fields "telemetry" none (d.optional d.flag)
    timeoutSecs := ← readSeconds? d fields "timeout_secs" }

/-- Reads the part about the direct backend. -/
def readDirect (n : Node) : Except Yaml.Fault DirectFile := do
  let fields ← d.fields n
  return {
    bindHost := ← Document.fieldOr fields "bind_host" none (d.optional (readIp d))
    forwards := ← Document.fieldOr fields "forward_ports" [] (d.list d.text) }

/-- Reads the whole file from its root. -/
def readRoot (n : Node) : Except Yaml.Fault File := do
  let fields ← d.fields n
  return {
    hostname := ← readText? d fields "hostname"
    controlUrl := ← readText? d fields "control_url"
    api := ← Document.fieldOr fields "api" {} (readApi d)
    stateDir := ← readText? d fields "state_dir"
    healthIntervalSecs := ← readSeconds? d fields "health_interval_secs"
    keyRetrySecs := ← readSeconds? d fields "credential_retry_secs"
    livenessPort := ← Document.fieldOr fields "liveness_port" none
      (d.optional fun n => Nat.toUInt16 <$> d.number maxPort n)
    direct := ← Document.fieldOr fields "direct" {} (readDirect d) }

end Reading

/-- Reads a configuration file from its text. A text without a document sets nothing. -/
def File.ofText (s : String) : Except Yaml.Fault File := do
  let d ← Document.ofText s
  match d.root with
  | some n => readRoot d n
  | none => return {}

/-- Why a configuration file was not read. -/
inductive FileFault
  /-- The file could not be read. -/
  | unreadable (fault : Net.Fault)
  /-- It is no configuration. -/
  | unparsable (fault : Yaml.Fault)
  deriving DecidableEq, Repr

/-- Reads a configuration file from its bytes, if they were to be had. -/
def File.ofBytes (bytes : Except Net.Fault (List UInt8)) : Except FileFault File :=
  match bytes with
  | .error fault => .error (.unreadable fault)
  | .ok bytes =>
    match String.fromUTF8? ⟨bytes.toArray⟩ with
    | none => .error (.unreadable .notText)
    | some s => (File.ofText s).mapError .unparsable

end Tether.Config
