import Tether.Config.File
import Tether.Direct.Forward
import Tether.Url.Basic

/-!
Why no settings come of arguments, file and environment: the wording of each cause, and the reason
behind it where there is one.
-/

namespace Tether.Config

open Tether.Direct Tether.Url

/-- What a URL is for. -/
inductive UrlUse
  | control
  | api
  deriving DecidableEq, Repr

/-- The name of a use. -/
def UrlUse.text : UrlUse → String
  | .control => "control"
  | .api => "API"

/-- Why a URL is of no use. -/
inductive UrlFault
  /-- It is no URL. -/
  | malformed (fault : Url.Fault)
  /-- It is for another protocol. -/
  | scheme (name : String)
  /-- It names no host. -/
  | noHost
  deriving DecidableEq, Repr

/-- Why there are no settings. -/
inductive Error
  /-- The file could not be read, or is no configuration. -/
  | file (path : String) (fault : FileFault)
  /-- The variable that should hold the API key is not set. -/
  | unsetVariable (name : String)
  | noControlUrl
  | noApiUrl
  | blankHostname
  | noApiKey
  | badUrl (use : UrlUse) (value : String) (fault : UrlFault)
  | zeroHealthInterval
  /-- An entry of the file's forward list does not read. -/
  | badForward (entry : String) (fault : Forward.Error)
  deriving DecidableEq, Repr

/-- The wording of an error. -/
def Error.message : Error → String
  | .file path (.unreadable _) => "Failed to read config file: " ++ path
  | .file path (.unparsable _) => "Failed to parse config file: " ++ path
  | .unsetVariable name => "Environment variable " ++ name ++ " not set"
  | .noControlUrl => "Control URL is required (use --control-url or config file)"
  | .noApiUrl => "API URL is required (use --api-url or config file)"
  | .blankHostname => "Hostname cannot be empty"
  | .noApiKey => "API key is required (use --api-key, environment variable, or config file)"
  | .badUrl use value fault =>
    "Invalid " ++ use.text ++ " URL: '" ++ value ++ "'" ++
      match fault with
      | .malformed _ => ""
      | .scheme name => " (unsupported scheme '" ++ name ++ "')"
      | .noHost => " (missing host)"
  | .zeroHealthInterval => "Health interval must be at least 1 second"
  | .badForward entry fault => "Invalid forward port '" ++ entry ++ "': " ++ fault.message

/-- The reason behind an error, where there is one. -/
def Error.cause? : Error → Option String
  | .file _ (.unreadable fault) => some fault.text
  | .file _ (.unparsable fault) => some fault.message
  | .unsetVariable _ => some "environment variable not found"
  | .badUrl _ _ (.malformed fault) => some fault.message
  | _ => none

end Tether.Config
