import Tether.Agent.Config
import Tether.Config.Args
import Tether.Config.Draws
import Tether.Config.Error
import Tether.Control.Client
import Tether.Direct.Config
import Tether.Log

/-!
The settings of a run, made of arguments, an optional file and the environment. An argument goes
before the file, the file before the default; an API key that the file names by a variable goes
before one that it holds. The first fault in the order of `Settings.build` is reported.
-/

namespace Tether.Config

open Tether.Direct Tether.Text Tether.Time

/-- The settings of a run. -/
structure Settings where
  agent : Agent.Config
  control : Control.ClientConfig
  direct : Direct.Config
  deriving DecidableEq, Repr

/-! ## Surroundings -/

/-- What a run finds around it. -/
structure Surroundings where
  env : Environment := []
  /-- The home directory that the list of accounts gives. -/
  accountHome : Option String := none
  /-- How the domain names in URLs are read. -/
  domains : Url.DomainReader := Url.readDomain

/-- The path of a name inside a directory. -/
def joinPath (directory name : String) : String :=
  if directory = "" ∨ directory.endsWith "/" then directory ++ name else directory ++ "/" ++ name

/-- The home directory of the user. -/
def Surroundings.home? (s : Surroundings) : Option String :=
  match s.env.get? "HOME" with
  | some path => if path = "" then s.accountHome else some path
  | none => s.accountHome

/-- The directory for the configuration of programs: a path from the root that a variable gives,
else a place in the home directory. -/
def Surroundings.configHome? (s : Surroundings) : Option String :=
  match s.env.get? "XDG_CONFIG_HOME" with
  | some path => if path.startsWith "/" then some path else s.home?.map (joinPath · ".config")
  | none => s.home?.map (joinPath · ".config")

/-- Where the state is kept unless another place is chosen. -/
def Surroundings.stateDir (s : Surroundings) : String :=
  match s.configHome? with
  | some path => joinPath (joinPath path "overlink") "overlay"
  | none => joinPath ".overlink" "overlay"

/-! ## Checks -/

/-- Checks that a URL is one for HTTP. -/
def checkUrl (domains : Url.DomainReader) (use : UrlUse) (value : String) : Except Error Unit :=
  match Url.parse domains value with
  | .error fault => .error (.badUrl use value (.malformed fault))
  | .ok url =>
    if url.scheme ≠ "http" ∧ url.scheme ≠ "https" then
      .error (.badUrl use value (.scheme url.scheme))
    else if url.host.isNone then .error (.badUrl use value .noHost)
    else .ok ()

/-- Reads the entries of the file's forward list. -/
def readForwards (entries : List String) : Except Error (List Forward) :=
  entries.mapM fun entry => (Forward.parse entry).mapError (.badForward entry)

/-- The API key that the file gives. -/
def File.apiKey (file : File) (env : Environment) : Except Error (Option String) :=
  match file.api.keyEnv with
  | none => .ok file.api.key
  | some name =>
    match env.get? name with
    | some value => .ok (some value)
    | none => .error (.unsetVariable name)

/-! ## Settings -/

/-- The span of so many seconds. -/
def secondsOf (n : UInt64) : Span := .ofSeconds n.toNat

/-- The value, or the error where there is none. -/
def require (value : Option α) (e : Error) : Except Error α :=
  match value with
  | some a => .ok a
  | none => .error e

/-- Makes the settings. -/
def Settings.build (around : Surroundings) (draws : Draws) (args : Args) (file : File) :
    Except Error Settings := do
  let fileKey ← file.apiKey around.env
  let hostname := (args.hostname <|> file.hostname).getD draws.hostname
  let controlUrl ← require (args.controlUrl <|> file.controlUrl) .noControlUrl
  let apiUrl ← require (args.apiUrl <|> file.api.url) .noApiUrl
  let apiKey := (args.apiKey <|> fileKey).getD ""
  if isBlank hostname then throw .blankHostname
  if apiKey = "" then throw .noApiKey
  checkUrl around.domains .control controlUrl
  checkUrl around.domains .api apiUrl
  let healthInterval :=
    ((args.healthInterval <|> file.healthIntervalSecs).map secondsOf).getD
      Agent.defaultHealthInterval
  if healthInterval.isZero then throw .zeroHealthInterval
  let forwards ←
    if args.forwards.isEmpty then readForwards file.direct.forwards else pure args.forwards
  let bindHost := (args.bindHost <|> file.direct.bindHost).getD ({} : Direct.Config).bindHost
  return {
    agent := {
      hostname := hostname
      controlUrl := controlUrl
      stateDir := (args.stateDir <|> file.stateDir).getD around.stateDir
      livenessPort := (args.livenessPort <|> file.livenessPort).getD Agent.defaultLivenessPort
      healthInterval := healthInterval
      keyRetry :=
        ((args.keyRetry <|> file.keyRetrySecs).map secondsOf).getD Agent.defaultKeyRetry }
    control := {
      apiUrl := apiUrl
      apiKey := apiKey
      clientId := (args.clientId <|> file.api.clientId).getD draws.clientId
      telemetry := args.telemetry || file.api.telemetry.getD false
      timeout := (args.apiTimeout <|> file.api.timeoutSecs).map secondsOf }
    direct := { bindHost := bindHost, forwards := forwards } }

/-! ## Loading -/

/-- A view of the files: the bytes at a path, or why there are none. -/
abbrev Disk := String → Except Net.Fault (List UInt8)

/-- Reads the file that the arguments name; none named, nothing is set by it. -/
def File.load (disk : Disk) (args : Args) : Except Error File :=
  match args.config with
  | none => .ok {}
  | some path => (File.ofBytes (disk path)).mapError (.file path)

/-- What is logged before the file is read. -/
def loadingLog (args : Args) : List Entry :=
  match args.config with
  | some path => [⟨.info, .config, "Loading configuration from: " ++ path, []⟩]
  | none => []

/-- What is logged about a host name that is made up. -/
def namingLog (around : Surroundings) (draws : Draws) (args : Args) (file : File) : List Entry :=
  match file.apiKey around.env, args.hostname <|> file.hostname with
  | .ok _, none => [⟨.info, .config, "Auto-generated hostname: " ++ draws.hostname, []⟩]
  | _, _ => []

/-- Makes the settings of a run, and tells what is logged on the way. -/
def Settings.load (disk : Disk) (around : Surroundings) (draws : Draws) (args : Args) :
    List Entry × Except Error Settings :=
  match File.load disk args with
  | .error e => (loadingLog args, .error e)
  | .ok file =>
    (loadingLog args ++ namingLog around draws args file, Settings.build around draws args file)

end Tether.Config
