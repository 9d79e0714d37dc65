/-!
The text of a value for diagnostics: records, tagged values and lists, on one line or spread over
indented lines.
-/

namespace Tether.Text

/-- The items with a separator between each two. -/
def joinWith (sep : String) : List String → String
  | [] => ""
  | [s] => s
  | s :: rest => s ++ sep ++ joinWith sep rest

/-- A record on one line: `Name \x7b a: 1, b: 2 \x7d`. -/
def recordLine (name : String) (fields : List (String × String)) : String :=
  match fields with
  | [] => name
  | _ =>
    name ++ " \x7b " ++ joinWith ", " (fields.map fun f => f.1 ++ ": " ++ f.2) ++ " \x7d"

/-- The text with every line after the first moved in by four spaces. -/
def indentRest (s : String) : String :=
  String.ofList (s.toList.flatMap fun c => if c = '\n' then ['\n', ' ', ' ', ' ', ' '] else [c])

/-- A record with one field a line, each moved in by four spaces and closed by a comma. -/
def recordBlock (name : String) (fields : List (String × String)) : String :=
  match fields with
  | [] => name
  | _ =>
    name ++ " \x7b\n" ++
      String.join (fields.map fun f => "    " ++ f.1 ++ ": " ++ indentRest f.2 ++ ",\n") ++ "\x7d"

/-- A value under a tag: `Tag(value)`. -/
def tagged (tag value : String) : String := tag ++ "(" ++ value ++ ")"

/-- A list on one line: `[a, b]`. -/
def listLine (items : List String) : String := "[" ++ joinWith ", " items ++ "]"

/-- An optional value: `Some(value)` or `None`. -/
def optionLine : Option String → String
  | some s => tagged "Some" s
  | none => "None"

end Tether.Text
