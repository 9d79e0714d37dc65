import Tether.Text.Numeral
import Tether.Yaml.Spot

/-!
The texts of scalars. Plain and quoted scalars may run over several lines: the gap between two
lines becomes one space, or the line feeds beyond the first. A literal block keeps its lines, a
folded block joins those that do not begin with a blank. Each reader takes the characters behind
the opening mark and returns the text with the characters that are left.
-/

namespace Tether.Yaml

open Tether.Text

/-! ## Gaps between words -/

/-- What lies between two words of a scalar, the newest character first. -/
inductive Gap
  | none
  /-- Blanks on one line. -/
  | blanks (cs : List Char)
  /-- A line's end and those of the empty lines after it. -/
  | lines (first : Char) (more : List Char)
  /-- A line's end that an escape takes away, and those of the empty lines after it. -/
  | escaped (more : List Char)

/-- The gap with one more blank; blanks after a line's end do not count. -/
def Gap.addBlank (c : Char) : Gap → Gap
  | .none => .blanks [c]
  | .blanks cs => .blanks (c :: cs)
  | gap => gap

/-- The gap with one more line's end. -/
def Gap.addBreak (c : Char) : Gap → Gap
  | .lines first more => .lines first (c :: more)
  | .escaped more => .escaped (c :: more)
  | _ => .lines c []

/-- There is something between the words. -/
def Gap.isSome : Gap → Bool
  | .none => false
  | _ => true

/-- The gap reaches over the end of a line. -/
def Gap.isLong : Gap → Bool
  | .lines _ _ => true
  | .escaped _ => true
  | _ => false

/-- What a gap leaves in the text, the newest character first. -/
def Gap.folded : Gap → List Char
  | .none => []
  | .blanks cs => cs
  | .lines '\n' [] => [' ']
  | .lines '\n' more => more
  | .lines first more => more ++ [first]
  | .escaped more => more

/-! ## Plain scalars -/

/-- Reads a plain scalar that continues only on lines from the column `indent` on, or anywhere
inside brackets. Tells whether it ended at the start of a line. -/
def readPlain (bracketed : Bool) (indent : Nat) (out : List Char) (gap : Gap) :
    List Spot → Except Fault (List Char × Bool × List Spot)
  | [] => .ok (out, gap.isLong, [])
  | s :: rest =>
    if s.isBlank then
      if gap.isLong ∧ s.column < indent ∧ s.char = '\t' then .error .tabIndent
      else readPlain bracketed indent out (gap.addBlank s.char) rest
    else if s.isBreak then readPlain bracketed indent out (gap.addBreak s.char) rest
    else
      let done := (out, gap.isLong, s :: rest)
      let ends := (!bracketed && s.column < indent) || atDocumentMark (s :: rest) || s.char = '#'
      if gap.isSome && ends then .ok done
      else if bracketed && s.char = ':' && startsWithOneOf ",?[]\x7b\x7d" rest then
        .error .strayColon
      else if (s.char = ':' && atGap rest) ||
          (bracketed && startsWithOneOf ",[]\x7b\x7d" (s :: rest)) then .ok done
      else readPlain bracketed indent (s.char :: (gap.folded ++ out)) .none rest

/-! ## Quoted scalars -/

/-- Reads a text between single quotes, in which a quote is written twice. -/
def readSingle (out : List Char) (gap : Gap) : List Spot → Except Fault (List Char × List Spot)
  | [] => .error .openQuote
  | s :: rest =>
    if s.isBlank then readSingle out (gap.addBlank s.char) rest
    else if s.isBreak then readSingle out (gap.addBreak s.char) rest
    else if gap.isLong ∧ atDocumentMark (s :: rest) then .error .openQuote
    else
      let out := gap.folded ++ out
      if s.char = '\x27' then
        match rest with
        | t :: rest => if t.char = '\x27' then readSingle ('\x27' :: out) .none rest
            else .ok (out, t :: rest)
        | [] => .ok (out, [])
      else readSingle (s.char :: out) .none rest

/-- The character that an escape of one letter stands for. -/
def shortEscape? : Char → Option Char
  | '0' => some '\x00'
  | 'a' => some '\x07'
  | 'b' => some '\x08'
  | 't' => some '\t'
  | '\t' => some '\t'
  | 'n' => some '\n'
  | 'v' => some '\x0b'
  | 'f' => some '\x0c'
  | 'r' => some '\r'
  | 'e' => some '\x1b'
  | ' ' => some ' '
  | '"' => some '"'
  | '/' => some '/'
  | '\\' => some '\\'
  | 'N' => some '\x85'
  | '_' => some '\xa0'
  | 'L' => some '\u2028'
  | 'P' => some '\u2029'
  | _ => none

/-- The number of hexadecimal digits behind the letter of an escape. -/
def escapeWidth? : Char → Option Nat
  | 'x' => some 2
  | 'u' => some 4
  | 'U' => some 8
  | _ => none

/-- The character with a number, unless there is none. -/
def charOfNumber? (n : Nat) : Option Char :=
  if (0xD800 ≤ n ∧ n ≤ 0xDFFF) ∨ 0x10FFFF < n then none else some (Char.ofNat n)

/-- Reads a text between double quotes, in which a backslash begins an escape. A number is under
way when `pending` tells how many of its digits are missing and its value so far. -/
def readDouble (out : List Char) (gap : Gap) (escaping : Bool) (pending : Option (Nat × Nat)) :
    List Spot → Except Fault (List Char × List Spot)
  | [] => .error .openQuote
  | s :: rest =>
    match pending with
    | some (missing, value) =>
      match digitValue? 16 s.char with
      | none => .error .badEscape
      | some d =>
        if missing ≤ 1 then
          match charOfNumber? (16 * value + d) with
          | none => .error .badEscape
          | some c => readDouble (c :: out) .none false none rest
        else readDouble out .none false (some (missing - 1, 16 * value + d)) rest
    | none =>
      if escaping then
        if s.isBreak then readDouble out (.escaped []) false none rest
        else
          match shortEscape? s.char, escapeWidth? s.char with
          | some c, _ => readDouble (c :: out) .none false none rest
          | none, some width => readDouble out .none false (some (width, 0)) rest
          | none, none => .error .badEscape
      else if s.isBlank then readDouble out (gap.addBlank s.char) false none rest
      else if s.isBreak then readDouble out (gap.addBreak s.char) false none rest
      else if gap.isLong ∧ atDocumentMark (s :: rest) then .error .openQuote
      else
        let out := gap.folded ++ out
        if s.char = '"' then .ok (out, rest)
        else if s.char = '\\' then readDouble out .none true none rest
        else readDouble (s.char :: out) .none false none rest

/-! ## Block scalars -/

/-- What happens to the line feeds at the end of a block. -/
inductive Chomp
  | strip
  | clip
  | keep
  deriving DecidableEq, Repr

/-- A chomping indicator. -/
def Chomp.ofChar? (c : Char) : Option Chomp :=
  if c = '+' then some .keep else if c = '-' then some .strip else none

/-- The digit of an indentation indicator. -/
def indentDigit? (c : Char) : Option Nat := if c.isDigit then some (c.toNat - '0'.toNat) else none

/-- Reads the indicators behind the opening mark, in either order, and the rest of their line. -/
def readHeader (ss : List Spot) : Except Fault (Chomp × Nat × List Spot) :=
  let chompAt (ss : List Spot) : Chomp × List Spot :=
    match ss.head?.bind fun s => Chomp.ofChar? s.char with
    | some c => (c, ss.drop 1)
    | none => (.clip, ss)
  let indentAt (ss : List Spot) : Option Nat × List Spot :=
    match ss.head?.bind fun s => indentDigit? s.char with
    | some d => (some d, ss.drop 1)
    | none => (none, ss)
  let (chomp, indent, ss) :=
    match ss.head?.bind fun s => Chomp.ofChar? s.char with
    | some chomp =>
      let (indent, ss) := indentAt (ss.drop 1)
      (chomp, indent, ss)
    | none =>
      let (indent, ss) := indentAt ss
      if indent.isSome then
        let (chomp, ss) := chompAt ss
        (chomp, indent, ss)
      else (.clip, none, ss)
  let ss := skipBlanks ss
  let ss := if startsWith '#' ss then ss.dropWhile (!·.isBreak) else ss
  if indent = some 0 ∨ !atLineEnd ss then .error .badHeader
  else .ok (chomp, indent.getD 0, ss.drop 1)

/-- The widest indentation of the lines up to the first with a character on it. -/
def firstIndent (widest : Nat) : List Spot → Except Fault Nat
  | [] => .ok widest
  | s :: rest =>
    if s.char = ' ' then firstIndent widest rest
    else if s.char = '\t' then .error .tabIndent
    else if s.isBreak then firstIndent (max widest s.column) rest
    else .ok (max widest s.column)

/-- A block scalar under way. -/
structure Block where
  out : List Char := []
  /-- The end of the last line, until it is known what becomes of it. -/
  held : List Char := []
  /-- The ends of the empty lines after it. -/
  empty : List Char := []
  /-- The last line began with a blank. -/
  blankFirst : Bool := false
  inLine : Bool := false

/-- The block when a line begins with this character. -/
def Block.startLine (literal : Bool) (b : Block) (s : Spot) : Block :=
  let folds := !literal && b.held == ['\n'] && !b.blankFirst && !s.isBlank
  let joint := if folds then (if b.empty.isEmpty then [' '] else []) else b.held
  { out := s.char :: (b.empty ++ (joint ++ b.out)), blankFirst := s.isBlank, inLine := true }

/-- Reads the lines of a block from its column on. -/
def readBlockLines (literal : Bool) (indent : Nat) (b : Block) :
    List Spot → Except Fault (Block × List Spot)
  | [] => .ok (b, [])
  | s :: rest =>
    if b.inLine then
      if s.isBreak then
        readBlockLines literal indent { b with held := [s.char], inLine := false } rest
      else readBlockLines literal indent { b with out := s.char :: b.out } rest
    else if s.char = ' ' ∧ s.column < indent then readBlockLines literal indent b rest
    else if s.char = '\t' ∧ s.column < indent then .error .tabIndent
    else if s.isBreak then
      readBlockLines literal indent { b with empty := s.char :: b.empty } rest
    else if s.column = indent then
      readBlockLines literal indent (b.startLine literal s) rest
    else .ok (b, s :: rest)

/-- Reads a block scalar below a structure whose blocks begin at the column `floor`. -/
def readBlock (literal : Bool) (floor : Nat) (ss : List Spot) :
    Except Fault (List Char × List Spot) := do
  let (chomp, step, ss) ← readHeader ss
  let widest ← firstIndent 0 (if step = 0 then ss else [])
  let indent := if step = 0 then max (max widest floor) 1 else floor - 1 + step
  let (b, rest) ← readBlockLines literal indent {} ss
  let out := if chomp = .strip then b.out else b.held ++ b.out
  return (if chomp = .keep then b.empty ++ out else out, rest)

end Tether.Yaml
