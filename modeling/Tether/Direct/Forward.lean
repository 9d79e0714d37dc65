import Tether.Text.Blank
import Tether.Text.Numeral
import Tether.Text.Record

/-!
Port forwards. A forward is written `LISTEN:OVERLAY`: the port to bind, and the port that its
connections are taken to aim at. Blanks around either number are ignored, the first colon divides
the two, and of two bad numbers the one before the colon is reported.
-/

namespace Tether.Direct

open Tether.Text

/-- A bound port that stands in for a port of the overlay. -/
structure Forward where
  listen : UInt16
  overlay : UInt16
  deriving DecidableEq, Repr

namespace Forward

/-- Why a text is no forward. -/
inductive Error
  /-- Nothing divides the text in two. -/
  | noColon (text : String)
  /-- A part is no port. -/
  | badPort (part : String) (fault : NumeralFault)
  deriving DecidableEq, Repr

/-- The wording of an error. -/
def Error.message : Error → String
  | .noColon text => "expected LISTEN:OVERLAY, got '" ++ text ++ "'"
  | .badPort part fault => "invalid port '" ++ part ++ "': " ++ fault.message

/-- The characters before the first colon and those after it. -/
def splitColon (cs : List Char) : Option (List Char × List Char) :=
  match cs.dropWhile (· ≠ ':') with
  | [] => none
  | _ :: rest => some (cs.takeWhile (· ≠ ':'), rest)

/-- Reads one port, blanks around it allowed. -/
def readPart (part : List Char) : Except Error UInt16 :=
  match readNumeral 10 maxPort (trimChars part) with
  | .ok n => .ok n.toUInt16
  | .error fault => .error (.badPort (String.ofList part) fault)

/-- Reads a forward. -/
def parse (s : String) : Except Error Forward :=
  match splitColon s.toList with
  | none => .error (.noColon s)
  | some (front, back) => do
    let listen ← readPart front
    let overlay ← readPart back
    return ⟨listen, overlay⟩

/-- The text of a forward. -/
def text (f : Forward) : String := toString f.listen.toNat ++ ":" ++ toString f.overlay.toNat

/-- The text of a forward for diagnostics. -/
def debugText (f : Forward) : String :=
  recordLine "PortForward" [
    ("listen_port", toString f.listen.toNat), ("overlay_port", toString f.overlay.toNat)]

end Forward

end Tether.Direct
