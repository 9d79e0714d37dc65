import Tether.Text.Quoted
import Tether.Text.Record

/-!
What a session is started with. The text for diagnostics shows everything but the key.
-/

namespace Tether.Overlay

open Tether.Text

/-- The options of a session. -/
structure Options where
  hostname : String
  controlUrl : String
  ephemeral : Bool
  stateDir : String
  authKey : String
  deriving DecidableEq, Repr

/-- What stands for a secret in diagnostics. -/
def redacted : String := "<redacted>"

/-- The fields that diagnostics show. -/
def Options.shownFields (o : Options) : List (String × String) := [
  ("hostname", quoted o.hostname),
  ("control_url", quoted o.controlUrl),
  ("ephemeral", toString o.ephemeral),
  ("state_dir", quotedPath o.stateDir),
  ("auth_key", quoted redacted)]

/-- The options on one line. -/
def Options.debugText (o : Options) : String := recordLine "SessionOptions" o.shownFields

/-- The options on one line a field. -/
def Options.debugBlock (o : Options) : String := recordBlock "SessionOptions" o.shownFields

end Tether.Overlay
