import Tether.Control.Key
import Tether.Time.Span

/-!
The client that asks the control plane for keys. Setting it up checks what every request will
carry: there must be an API URL and an API key, and the key and the client id must be fit for a
header. The first fault in this order is reported.
-/

namespace Tether.Control

open Tether.Text Tether.Time

/-- The path of the key service below the API URL. -/
def keyPath : String := "/server/network-key"

/-- The name under which the client presents itself. -/
def userAgent : String := "overlink/0.1.0"

/-- The configuration of the client. -/
structure ClientConfig where
  apiUrl : String
  apiKey : String
  clientId : String
  telemetry : Bool := false
  /-- The longest wait for a response; absent, there is no limit. -/
  timeout : Option Span := none
  deriving DecidableEq, Repr

/-- A character may stand in the value of a header: every one but the control characters, of which
only the tab is allowed. Characters outside ASCII are allowed too. -/
def isHeaderChar (c : Char) : Bool := (0x20 ≤ c.toNat && c.toNat ≠ 0x7F) || c = '\t'

/-- A text may be the value of a header. -/
def isHeaderValue (s : String) : Bool := s.toList.all isHeaderChar

/-- A client, by the address it posts to and the headers it sends. -/
structure Client where
  url : String
  headers : List (String × String)
  timeout : Option Span
  deriving DecidableEq, Repr

/-- The text without the slashes that end it. -/
def dropLastSlashes (s : String) : String :=
  String.ofList (s.toList.reverse.dropWhile (· = '/')).reverse

/-- The first fault of a configuration, if it has one. -/
def ClientConfig.fault? (c : ClientConfig) : Option String :=
  if isBlank c.apiUrl then some "api_url is empty"
  else if c.apiKey = "" then some "api_key is empty"
  else if !isHeaderValue ("Bearer " ++ c.apiKey) then some "Invalid API key format"
  else if !isHeaderValue c.clientId then some "Invalid client id format"
  else none

/-- Sets up a client. -/
def Client.ofConfig (c : ClientConfig) : Except Error Client :=
  match c.fault? with
  | some reason => .error (.config reason)
  | none => .ok {
      url := dropLastSlashes c.apiUrl ++ keyPath
      headers := [
        ("authorization", "Bearer " ++ c.apiKey),
        ("x-client-id", c.clientId),
        ("x-telemetry-enabled", toString c.telemetry),
        ("user-agent", userAgent)]
      timeout := c.timeout }

end Tether.Control
