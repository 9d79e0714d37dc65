import Tether.Yaml.Scalar
import Tether.Yaml.Token

/-!
From characters to tokens. Outside brackets the columns decide: a deeper column opens a block, a
shallower one closes those it leaves. A key shows only by the colon behind it, so every place where
a key may begin is remembered as a candidate; when the colon comes, the token of the key is put in
at that place. A candidate is given up when its line ends or 1024 characters have passed, which is
a fault where nothing but a key can stand.
-/

namespace Tether.Yaml

/-- A place where a key may have begun. -/
structure Candidate where
  /-- Nothing but a key can stand there. -/
  required : Bool
  /-- The number of tokens before it. -/
  tokens : Nat
  spot : Spot

/-- The candidate is out of reach at a place. -/
def Candidate.isStale (k : Candidate) (s : Spot) : Bool :=
  k.spot.line < s.line || k.spot.index + 1024 < s.index

/-- The tokens read so far, and what decides about the next. -/
structure Layout where
  rest : List Spot
  /-- The newest first. -/
  tokens : List Token := []
  /-- The columns of the open blocks, the innermost first. -/
  columns : List Nat := []
  /-- A key may begin here. -/
  keyAllowed : Bool := true
  /-- The candidate at this depth of brackets. -/
  candidate : Option Candidate := none
  /-- The candidates outside the open brackets, the innermost first. -/
  outer : List (Option Candidate) := []

namespace Layout

/-- Some bracket is open. -/
def isBracketed (l : Layout) : Bool := !l.outer.isEmpty

/-- The column from which a block below the innermost open one may begin. -/
def floor (l : Layout) : Nat :=
  match l.columns with
  | [] => 0
  | c :: _ => c + 1

/-- The layout with one more token. -/
def emit (l : Layout) (t : Token) : Layout := { l with tokens := t :: l.tokens }

/-- The layout with a token put in behind so many. -/
def insertAfter (l : Layout) (count : Nat) (t : Token) : Layout :=
  let newer := l.tokens.length - count
  { l with tokens := l.tokens.take newer ++ t :: l.tokens.drop newer }

/-- The layout with the blocks closed whose column the test picks. -/
def close (l : Layout) (leaves : Nat → Bool) : Layout :=
  if l.isBracketed then l
  else
    let count := (l.columns.takeWhile leaves).length
    { l with
      tokens := List.replicate count Token.blockEnd ++ l.tokens
      columns := l.columns.drop count }

/-- The layout with a block opened behind so many tokens, if the column is deeper. -/
def openBlock (l : Layout) (column count : Nat) (t : Token) : Layout :=
  if l.isBracketed ∨ column < l.floor then l
  else { l.insertAfter count t with columns := column :: l.columns }

/-- Gives up the candidate. -/
def dropCandidate (l : Layout) : Except Fault Layout :=
  if l.candidate.any Candidate.required then .error .lostKey
  else .ok { l with candidate := none }

/-- Remembers the place as a candidate, if a key may begin here. -/
def offer (l : Layout) (s : Spot) : Except Fault Layout :=
  if l.keyAllowed then do
    let l ← l.dropCandidate
    let required := !l.isBracketed && l.columns.head? == some s.column
    return { l with candidate := some ⟨required, l.tokens.length, s⟩ }
  else .ok l

/-- Gives up the candidates that are out of reach. -/
def expire (l : Layout) (s : Spot) : Except Fault Layout :=
  let stale (k : Option Candidate) : Bool := k.any fun k => k.isStale s
  let check (k : Option Candidate) : Option Candidate := if stale k then none else k
  if (l.candidate :: l.outer).any fun k => stale k && k.any Candidate.required then .error .lostKey
  else .ok { l with candidate := check l.candidate, outer := l.outer.map check }

/-- Skips blanks, comments and ends of lines. Outside brackets the end of a line lets a key begin,
and then a tab is no blank. -/
def skip (bracketed : Bool) (comment allowed : Bool) : List Spot → Bool × List Spot
  | [] => (allowed, [])
  | s :: rest =>
    if s.isBreak then skip bracketed false (allowed || !bracketed) rest
    else if comment || s.char = '#' then skip bracketed true allowed rest
    else if s.char = ' ' || (s.char = '\t' && (bracketed || !allowed)) then
      skip bracketed false allowed rest
    else (allowed, s :: rest)

/-! ## Single tokens -/

/-- A mark at the beginning of a line that starts or ends a document, or a directive. -/
def boundary (l : Layout) : Except Fault Layout := do
  let l ← (l.close fun _ => true).dropCandidate
  return { l with keyAllowed := false }

/-- An opening bracket. -/
def openBracket (l : Layout) (s : Spot) (rest : List Spot) (t : Token) : Except Fault Layout := do
  let l ← l.offer s
  return { l.emit t with
    rest := rest, outer := l.candidate :: l.outer, candidate := none, keyAllowed := true }

/-- A closing bracket. -/
def closeBracket (l : Layout) (rest : List Spot) (t : Token) : Except Fault Layout := do
  let l ← l.dropCandidate
  let l := match l.outer with
    | [] => l
    | k :: outer => { l with candidate := k, outer := outer }
  return { l.emit t with rest := rest, keyAllowed := false }

/-- A hyphen before an item, or a question mark before a key. -/
def entry (l : Layout) (s : Spot) (rest : List Spot) (block t : Token) (keyNext : Bool) :
    Except Fault Layout := do
  if !l.isBracketed && !l.keyAllowed then throw .misplaced
  let l ← (l.openBlock s.column l.tokens.length block).dropCandidate
  return { l.emit t with rest := rest, keyAllowed := keyNext }

/-- A colon before a value. -/
def value (l : Layout) (s : Spot) (rest : List Spot) : Except Fault Layout :=
  match l.candidate with
  | some k =>
    let l := (l.insertAfter k.tokens .key).openBlock k.spot.column k.tokens .blockMapping
    .ok { l.emit .value with rest := rest, candidate := none, keyAllowed := false }
  | none =>
    if l.isBracketed then .ok { l.emit .value with rest := rest, keyAllowed := false }
    else if !l.keyAllowed then .error .misplaced
    else
      .ok { (l.openBlock s.column l.tokens.length .blockMapping).emit .value with
        rest := rest, keyAllowed := true }

/-- A token that may be, or begin, a key on one line. -/
def inlineToken (l : Layout) (s : Spot) (read : Except Fault (Token × List Spot)) :
    Except Fault Layout := do
  let l ← l.offer s
  let (t, rest) ← read
  return { l.emit t with rest := rest, keyAllowed := false }

/-- A block scalar. -/
def block (l : Layout) (rest : List Spot) (style : Style) : Except Fault Layout := do
  let l ← l.dropCandidate
  let (out, rest) ← readBlock (style = .literal) l.floor rest
  let l := l.emit (.scalar style (String.ofList out.reverse))
  return { l with rest := rest, keyAllowed := true }

/-- A plain scalar. -/
def plain (l : Layout) (s : Spot) (rest : List Spot) : Except Fault Layout := do
  let l ← l.offer s
  let (out, newLine, rest) ← readPlain l.isBracketed l.floor [] .none (s :: rest)
  return { l.emit (.scalar .plain (String.ofList out.reverse)) with
    rest := rest, keyAllowed := newLine }

/-- The characters begin a plain scalar. -/
def startsPlain (bracketed : Bool) (s : Spot) (rest : List Spot) : Bool :=
  !(s.isBlank || startsWithOneOf "-?:,[]\x7b\x7d#&*!|>'\"%@`" (s :: rest)) ||
    (s.char = '-' && !startsWith ' ' rest && !startsWith '\t' rest) ||
    (!bracketed && (s.char = '?' || s.char = ':') && !atGap rest)

/-- A quoted scalar, from its reader's answer. -/
def quoted (answer : Except Fault (List Char × List Spot)) : Except Fault (Token × List Spot) :=
  answer.map fun r => (.scalar .quoted (String.ofList r.1.reverse), r.2)

/-- Reads one token that begins at a character. -/
def token (l : Layout) (s : Spot) (rest : List Spot) : Except Fault Layout :=
  let here := s :: rest
  if s.column = 0 ∧ s.char = '%' then do
    let l ← l.boundary
    let (t, rest) ← readDirective rest
    return { l.emit t with rest := rest }
  else if atMark "---" here then
    return { (← l.boundary).emit .documentStart with rest := rest.drop 2 }
  else if atMark "..." here then
    return { (← l.boundary).emit .documentEnd with rest := rest.drop 2 }
  else
    match s.char with
    | '[' => l.openBracket s rest .openSequence
    | '\x7b' => l.openBracket s rest .openMapping
    | ']' => l.closeBracket rest .closeSequence
    | '\x7d' => l.closeBracket rest .closeMapping
    | ',' => do return { (← l.dropCandidate).emit .flowEntry with rest := rest, keyAllowed := true }
    | '*' => l.inlineToken s ((readName rest).map fun r => (.alias r.1, r.2))
    | '&' => l.inlineToken s ((readName rest).map fun r => (.anchor r.1, r.2))
    | '!' => l.inlineToken s (readTag l.isBracketed here)
    | '\x27' => l.inlineToken s (quoted (readSingle [] .none rest))
    | '"' => l.inlineToken s (quoted (readDouble [] .none false none rest))
    | c =>
      if c = '-' ∧ atGap rest then l.entry s rest .blockSequence .blockEntry true
      else if c = '?' ∧ (l.isBracketed ∨ atGap rest) then
        l.entry s rest .blockMapping .key !l.isBracketed
      else if c = ':' ∧ (l.isBracketed ∨ atGap rest) then l.value s rest
      else if c = '|' ∧ !l.isBracketed then l.block rest .literal
      else if c = '>' ∧ !l.isBracketed then l.block rest .folded
      else if startsPlain l.isBracketed s rest then l.plain s rest
      else .error .badStart

/-- Reads the tokens that are left. A token takes at least one character; that is checked, so the
number of characters left bounds the number of tokens. -/
def run (l : Layout) : Except Fault (List Token) := do
  let (allowed, rest) := skip l.isBracketed false l.keyAllowed l.rest
  let open_ := { l with keyAllowed := allowed, rest := rest }
  match rest with
  | [] => return (← open_.boundary).tokens.reverse
  | s :: more =>
    let next ← ((← open_.expire s).close (s.column < ·)).token s more
    if next.rest.length < l.rest.length then next.run else throw .badStart
termination_by l.rest.length

end Layout

/-- The tokens of a text. -/
def tokensOf (s : String) : Except Fault (List Token) := do
  Layout.run { rest := ← spots s }

end Tether.Yaml
