import Tether.Log
import Tether.Text.Record

/-!
What a run prints: one line for each log entry, and for a fault its wording with the reasons behind
it, numbered where there is more than one and indented behind their first line.
-/

namespace Tether.Program

open Tether.Text

/-- The line of a log entry. -/
def entryLine (e : Entry) : String :=
  e.level.text ++ " " ++ e.part.text ++ ": " ++
    joinWith " " (e.message :: e.fields.map fun f => f.1 ++ "=" ++ f.2)

/-- A text with its lines behind the first set in. -/
def indented (front inner text : String) : String :=
  front ++ joinWith ("\n" ++ inner) (text.splitOn "\n")

/-- The report of a fault and the reasons behind it. -/
def report (message : String) (reasons : List String) : String :=
  let lines := match reasons with
    | [] => []
    | [reason] => [indented "    " "    " reason]
    | _ => (reasons.zipIdx).map fun (reason, i) =>
      let number := toString i
      let margin := String.ofList (List.replicate (5 - number.length) ' ')
      indented (margin ++ number ++ ": ") "       " reason
  "Error: " ++ message ++
    (if lines.isEmpty then "" else "\n\nCaused by:\n" ++ joinWith "\n" lines) ++ "\n"

end Tether.Program
