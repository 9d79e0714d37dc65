import Tether.Yaml.Layout

/-!
Documents: the tree that the tokens of a text describe. A text holds at most one document here; a
text of comments alone holds none. A missing key, value or item is an empty plain scalar. An alias
names the latest node before it that carries the anchor; the nodes with anchors are kept beside the
tree, so a node may even contain an alias of itself.
-/

namespace Tether.Yaml

/-- A node of a document. -/
inductive Node
  | scalar (style : Style) (tag : Option String) (text : String)
  | sequence (items : List Node)
  | mapping (entries : List (Node × Node))
  /-- The node with the anchor of this number. -/
  | alias (number : Nat)

/-- What stands where nothing is written. -/
def Node.missing : Node := .scalar .plain none ""

/-- A document. -/
structure Document where
  root : Option Node
  /-- The nodes with anchors, by the numbers of the anchors. -/
  anchored : List (Nat × Node)

/-- A text's reading under way. -/
structure Reading where
  tokens : List Token
  /-- What the handles of tags stand for. -/
  handles : List (String × String) := []
  /-- The anchors so far, the newest first. -/
  names : List (String × Nat) := []
  anchored : List (Nat × Node) := []

/-- A step of reading. -/
abbrev Read := StateT Reading (Except Fault)

namespace Read

/-- The next token. -/
def peek : Read (Option Token) := return (← get).tokens.head?

/-- Passes over the next token. -/
def skip : Read Unit := modify fun r => { r with tokens := r.tokens.drop 1 }

/-- Passes over the next token if it is this one, and tells whether it was. -/
def take (t : Token) : Read Bool := do
  let found := (← peek) == some t
  if found then skip
  return found

/-- Passes over the next token, which must be this one. -/
def expect (t : Token) : Read Unit := do
  if !(← take t) then throw .unexpected

/-- The next token is one of these. -/
def nextIsOneOf (ts : List Token) : Read Bool := return (← peek).any ts.contains

/-- The handles that need no declaration. -/
def knownHandles : List (String × String) := [("!", "!"), ("!!", "tag:yaml.org,2002:")]

/-- The full text of a tag. -/
def resolveTag (handle suffix : String) : Read String := do
  if handle = "" then return suffix
  match ((← get).handles ++ knownHandles).lookup handle with
  | some stem => return stem ++ suffix
  | none => throw .unknownHandle

/-- Gives an anchor its number. -/
def openAnchor (name : String) : Read Nat := do
  let number := (← get).names.length
  modify fun r => { r with names := (name, number) :: r.names }
  return number

/-- The anchor before a node, by its number, and the tag, in either order. -/
def properties : Read (Option Nat × Option String) := do
  match ← peek with
  | some (.anchor name) =>
    skip
    match ← peek with
    | some (.tag handle suffix) =>
      skip
      let tag ← resolveTag handle suffix
      return (some (← openAnchor name), some tag)
    | _ => return (some (← openAnchor name), none)
  | some (.tag handle suffix) =>
    skip
    match ← peek with
    | some (.anchor name) =>
      skip
      let tag ← resolveTag handle suffix
      return (some (← openAnchor name), some tag)
    | _ => return (none, some (← resolveTag handle suffix))
  | _ => return (none, none)

mutual

/-- Reads a node. A block may begin only where `block` says so, and a list without indentation of
its own only as the value of a key. -/
def node : Nat → (block loose : Bool) → Read Node
  | 0, _, _ => throw .unexpected
  | fuel + 1, block, loose => do
    match ← peek with
    | some (.alias name) =>
      skip
      match (← get).names.lookup name with
      | some number => return .alias number
      | none => throw .unknownAnchor
    | _ =>
      let (anchor, tag) ← properties
      let n ← content fuel block loose tag (anchor.isSome || tag.isSome)
      if let some number := anchor then
        modify fun r => { r with anchored := (number, n) :: r.anchored }
      return n

/-- Reads a node behind its anchor and tag; behind these it may be missing. -/
def content : Nat → (block loose : Bool) → Option String → (marked : Bool) → Read Node
  | 0, _, _, _, _ => throw .unexpected
  | fuel + 1, block, loose, tag, marked => do
    match ← peek with
    | some (.scalar style text) => skip; return .scalar style tag text
    | some .openSequence => skip; return .sequence (← flowItems fuel true)
    | some .openMapping => skip; return .mapping (← flowEntries fuel true)
    | some .blockEntry =>
      if loose then return .sequence (← looseItems fuel)
      if marked then return .scalar .plain tag ""
      throw .unexpected
    | some .blockSequence =>
      if block then
        skip
        return .sequence (← blockItems fuel)
      if marked then return .scalar .plain tag ""
      throw .unexpected
    | some .blockMapping =>
      if block then
        skip
        return .mapping (← blockEntries fuel)
      if marked then return .scalar .plain tag ""
      throw .unexpected
    | _ =>
      if marked then return .scalar .plain tag ""
      throw .unexpected

/-- Reads the items of a block up to its end. -/
def blockItems : Nat → Read (List Node)
  | 0 => throw .unexpected
  | fuel + 1 => do
    if ← take .blockEnd then return []
    expect .blockEntry
    let item ← if ← nextIsOneOf [.blockEntry, .blockEnd] then pure Node.missing
      else node fuel true false
    return item :: (← blockItems fuel)

/-- Reads the items of a list that is indented no deeper than its key. -/
def looseItems : Nat → Read (List Node)
  | 0 => throw .unexpected
  | fuel + 1 => do
    if !(← take .blockEntry) then return []
    let item ← if ← nextIsOneOf [.blockEntry, .key, .value, .blockEnd] then pure Node.missing
      else node fuel true false
    return item :: (← looseItems fuel)

/-- Reads the entries of a block up to its end. -/
def blockEntries : Nat → Read (List (Node × Node))
  | 0 => throw .unexpected
  | fuel + 1 => do
    if ← take .blockEnd then return []
    expect .key
    let key ← blockNode fuel
    let value ← if ← take .value then blockNode fuel else pure Node.missing
    return (key, value) :: (← blockEntries fuel)

/-- Reads the key or value of an entry, which may be missing. -/
def blockNode : Nat → Read Node
  | 0 => throw .unexpected
  | fuel + 1 => do
    if ← nextIsOneOf [.key, .value, .blockEnd] then return Node.missing
    node fuel true true

/-- Reads the items between brackets. A key among them begins an item of one entry; where that key
is missing, the token behind its mark is passed over. -/
def flowItems : Nat → (first : Bool) → Read (List Node)
  | 0, _ => throw .unexpected
  | fuel + 1, first => do
    if ← take .closeSequence then return []
    if !first then
      expect .flowEntry
      if ← take .closeSequence then return []
    let item ←
      if ← take .key then do
        let ends : List Token := [.flowEntry, .closeSequence]
        let key ← if ← nextIsOneOf (.value :: ends) then do
            skip
            pure Node.missing
          else node fuel false false
        let value ← flowValue fuel ends
        pure (Node.mapping [(key, value)])
      else node fuel false false
    return item :: (← flowItems fuel false)

/-- Reads the entries between braces. -/
def flowEntries : Nat → (first : Bool) → Read (List (Node × Node))
  | 0, _ => throw .unexpected
  | fuel + 1, first => do
    if ← take .closeMapping then return []
    if !first then
      expect .flowEntry
      if ← take .closeMapping then return []
    let ends : List Token := [.flowEntry, .closeMapping]
    let entry ←
      if ← take .key then do
        let key ← if ← nextIsOneOf (.value :: ends) then pure Node.missing
          else node fuel false false
        pure (key, ← flowValue fuel ends)
      else pure (← node fuel false false, Node.missing)
    return entry :: (← flowEntries fuel false)

/-- Reads the value of a key between brackets, which may be missing. -/
def flowValue : Nat → (ends : List Token) → Read Node
  | 0, _ => throw .unexpected
  | fuel + 1, ends => do
    if !(← take .value) then return Node.missing
    if ← nextIsOneOf ends then return Node.missing
    node fuel false false

end

/-- Reads the directives before a document. -/
def directives : Nat → (versioned : Bool) → Read Unit
  | 0, _ => throw .unexpected
  | fuel + 1, versioned => do
    match ← peek with
    | some (.version major minor) =>
      if versioned ∨ major ≠ 1 ∨ (minor ≠ 1 ∧ minor ≠ 2) then throw .badDirective
      skip
      directives fuel true
    | some (.handle name stem) =>
      if ((← get).handles.lookup name).isSome then throw .badDirective
      skip
      modify fun r => { r with handles := (name, stem) :: r.handles }
      directives fuel versioned
    | _ => return ()

/-- The token begins a document with marks. -/
def isExplicit : Token → Bool
  | .version _ _ => true
  | .handle _ _ => true
  | .documentStart => true
  | _ => false

/-- Reads a whole text. -/
def document (fuel : Nat) : Read (Option Node) := do
  match ← peek with
  | none => return none
  | some t =>
    let root ←
      if isExplicit t then do
        directives fuel false
        expect .documentStart
        let next ← peek
        if next.all fun t => isExplicit t || t == .documentEnd then pure Node.missing
        else node fuel true false
      else node fuel true false
    if (← get).tokens.all (· == .documentEnd) then return some root
    throw .manyDocuments

end Read

/-- The document of a text. Every call of a reader is followed by a token or ends a structure that
one began, so four steps for each token are enough. -/
def Document.ofText (s : String) : Except Fault Document := do
  let tokens ← tokensOf s
  let (root, reading) ← (Read.document (4 * tokens.length + 8)).run { tokens := tokens }
  return ⟨root, reading.anchored⟩

end Tether.Yaml
