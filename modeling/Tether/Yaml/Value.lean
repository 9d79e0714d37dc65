import Tether.Text.Numeral
import Tether.Yaml.Document

/-!
Data out of documents. The wanted type decides how a scalar is read, so any scalar can be a text,
also one that looks like a number; only a plain scalar can be a truth value, a number or nothing at
all. A mapping or list may be left empty, but it may not be the word for nothing.
-/

namespace Tether.Yaml

open Tether.Text

namespace Document

/-- The node that a node stands for. -/
def follow (d : Document) (n : Node) : Node :=
  match n with
  | .alias number => (d.anchored.lookup number).getD n
  | _ => n

/-- Reads a text. -/
def text (d : Document) (n : Node) : Except Fault String :=
  match d.follow n with
  | .scalar _ _ s => .ok s
  | _ => .error (.wrongShape "a string")

/-- The words for nothing. -/
def isNothing (s : String) : Bool := ["null", "Null", "NULL", "~"].contains s

/-- The tag of a kind of scalar. -/
def coreTag (name : String) : String := "tag:yaml.org,2002:" ++ name

/-- Reads what may be missing. A tagged scalar is there, unless its tag says that it is nothing. -/
def optional (d : Document) (read : Node → Except Fault α) (n : Node) : Except Fault (Option α) :=
  let n := d.follow n
  match n with
  | .scalar .plain none s => if s = "" ∨ isNothing s then .ok none else some <$> read n
  | .scalar .plain (some tag) s =>
    if tag ≠ coreTag "null" then some <$> read n
    else if isNothing s then .ok none
    else .error (.wrongShape "null")
  | _ => some <$> read n

/-- The text of a scalar that may be more than a text: a plain one, or a literal one with the
tag. -/
def bare (d : Document) (tag : String) (n : Node) : Option String :=
  match d.follow n with
  | .scalar .plain _ s => some s
  | .scalar .literal (some t) s => if t = coreTag tag then some s else none
  | _ => none

/-- Reads a truth value. -/
def flag (d : Document) (n : Node) : Except Fault Bool :=
  match d.bare "bool" n with
  | some s =>
    if ["true", "True", "TRUE"].contains s then .ok true
    else if ["false", "False", "FALSE"].contains s then .ok false
    else .error (.wrongShape "a boolean")
  | none => .error (.wrongShape "a boolean")

/-- The number of a text: hexadecimal after `0x`, octal after `0o`, binary after `0b`, else decimal
without needless zeros, after a plus sign perhaps. -/
def number? (s : String) : Option Nat :=
  let cs := match s.toList with
    | '+' :: rest => rest
    | cs => cs
  let read (base : Nat) (ds : List Char) : Option Nat :=
    if ds.head? = some '+' then none else (readNumeral base maxWord ds).toOption
  match cs with
  | '0' :: 'x' :: ds => read 16 ds
  | '0' :: 'o' :: ds => read 8 ds
  | '0' :: 'b' :: ds => read 2 ds
  | '0' :: d :: ds => if (d :: ds).all Char.isDigit then none else read 10 cs
  | cs => read 10 cs

/-- Reads a number up to a limit. -/
def number (d : Document) (limit : Nat) (n : Node) : Except Fault Nat :=
  match (d.bare "int" n).bind number? with
  | some v => if v ≤ limit then .ok v else .error (.wrongShape "a smaller number")
  | none => .error (.wrongShape "a number")

/-- Reads a list. -/
def list (d : Document) (read : Node → Except Fault α) (n : Node) : Except Fault (List α) :=
  match d.follow n with
  | .sequence items => items.mapM read
  | .scalar .plain _ "" => .ok []
  | _ => .error (.wrongShape "a sequence")

/-- Reads the named fields of a record. -/
def fields (d : Document) (n : Node) : Except Fault (List (String × Node)) :=
  match d.follow n with
  | .mapping entries => entries.mapM fun e => return (← d.text e.1, e.2)
  | .scalar .plain _ "" => .ok []
  | _ => .error (.wrongShape "a mapping")

/-- The field of a name, which may not be given twice. -/
def field (fields : List (String × Node)) (name : String) : Except Fault (Option Node) :=
  match fields.filter (·.1 = name) with
  | [] => .ok none
  | [f] => .ok (some f.2)
  | _ => .error (.repeated name)

/-- Reads the field of a name, or takes what stands for a missing one. -/
def fieldOr (fields : List (String × Node)) (name : String) (absent : α)
    (read : Node → Except Fault α) : Except Fault α := do
  match ← field fields name with
  | some n => read n
  | none => return absent

end Document

end Tether.Yaml
