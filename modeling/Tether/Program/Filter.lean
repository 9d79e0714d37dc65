import Tether.Log

/-!
Which log entries are shown. A filter is a list of directives between commas. A level alone holds
for all parts; a name with a level holds for the parts whose name begins so, and a name alone shows
everything of them. Of several directives for a part the one with the longest name counts, of equal
ones the last. A directive about spans is allowed and shows nothing, since no entry lies in a span.
-/

namespace Tether.Program

/-- A directive: the beginning of a part's name, and the least level shown, if any is. -/
structure Directive where
  target : String := ""
  least : Option Level
  deriving DecidableEq, Repr

/-- Directives, in the order of their text. -/
abbrev Filter := List Directive

/-- The level of a word or digit; the inner value is missing where nothing is shown. -/
def readLevel? (word : String) : Option (Option Level) :=
  match word.toLower with
  | "off" | "0" => some none
  | "error" | "1" => some (some .error)
  | "warn" | "2" => some (some .warn)
  | "info" | "3" => some (some .info)
  | "debug" | "4" => some (some .debug)
  | "trace" | "5" => some (some .trace)
  | _ => none

/-- A character of a part's name. -/
def isTargetChar (c : Char) : Bool := c.isAlphanum || c = '_' || c = ':' || c = '-'

/-- Reads what follows a name: nothing, or an equals sign with or without a level. -/
def readLeast? (cs : List Char) : Option (Option Level) :=
  match cs with
  | [] => some (some .trace)
  | ['='] => some (some .trace)
  | '=' :: word => readLevel? (String.ofList word)
  | _ => none

/-- Reads a directive; one about spans is read as nothing. -/
def readDirective? (text : String) : Option (Option Directive) :=
  match readLevel? text with
  | some least => some (some { least := least })
  | none =>
    let cs := text.toList
    let target := cs.takeWhile isTargetChar
    match cs.dropWhile isTargetChar with
    | '[' :: rest =>
      match rest.dropWhile (· ≠ ']') with
      | _ :: rest =>
        let rest := if target.isEmpty then rest.dropWhile isTargetChar else rest
        (readLeast? rest).map fun _ => none
      | [] => none
    | rest =>
      if target.isEmpty then none
      else (readLeast? rest).map fun least => some ⟨String.ofList target, least⟩

/-- Reads a filter. Without any directive only errors are shown. -/
def Filter.parse? (text : String) : Option Filter := do
  let parts := (text.splitOn ",").filter (· ≠ "")
  if parts.isEmpty then return [{ least := some .error }]
  return (← parts.mapM readDirective?).filterMap id

/-- The directive that counts for a part. -/
def Filter.directiveFor? (f : Filter) (part : String) : Option Directive :=
  (f.filter fun d => d.target.toList.isPrefixOf part.toList).foldl (fun best d =>
    match best with
    | some b => if b.target.length ≤ d.target.length then some d else some b
    | none => some d) none

/-- The filter shows an entry. -/
def Filter.shows (f : Filter) (e : Entry) : Bool :=
  match (f.directiveFor? e.part.text).bind Directive.least with
  | some least => least.weight ≤ e.level.weight
  | none => false

end Tether.Program
