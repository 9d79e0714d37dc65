import Tether.Url.Host

/-!
Absolute URLs. `Url.parse` reads a text, `Url.text` writes the one form of what was read. Blanks and
control characters around the text and every tab and line break in it are ignored. The schemes with
a host (`http`, `https`, `ws`, `wss`, `ftp`) take any number of slashes, of either slant, before it;
`file` has a host only after two; an unknown scheme has a host after exactly `//`.
-/

namespace Tether.Url

open Tether.Text Tether.Net

/-- The path of a URL: one text without structure, or segments that each follow a slash. -/
inductive Path
  | opaqueText (text : String)
  | segments (parts : List String)
  deriving DecidableEq, Repr

/-- A name and a password before the host. -/
structure User where
  name : String
  password : Option String
  deriving DecidableEq, Repr

end Tether.Url

namespace Tether

/-- An absolute URL. -/
structure Url where
  scheme : String
  user : Option Url.User := none
  host : Option Url.Host := none
  port : Option UInt16 := none
  path : Url.Path
  query : Option String := none
  fragment : Option String := none
  deriving DecidableEq, Repr

end Tether

namespace Tether.Url

open Tether.Text Tether.Net

/-! ## Schemes -/

/-- How a scheme shapes what follows it. -/
inductive Kind
  /-- A host is needed, either slant of slash divides. -/
  | hosted
  /-- A path on some host, either slant of slash divides. -/
  | file
  /-- A scheme without rules of its own. -/
  | plain
  deriving DecidableEq, Repr

/-- The kind of a scheme. -/
def Kind.ofScheme (scheme : String) : Kind :=
  if ["http", "https", "ws", "wss", "ftp"].contains scheme then .hosted
  else if scheme = "file" then .file
  else .plain

/-- The port that a scheme stands for, which is not written. -/
def defaultPort (scheme : String) : Option Nat :=
  match scheme with
  | "http" => some 80
  | "ws" => some 80
  | "https" => some 443
  | "wss" => some 443
  | "ftp" => some 21
  | _ => none

/-- A character that a scheme may hold after its first letter. -/
def isSchemeChar (c : Char) : Bool := c.isAlphanum || c = '+' || c = '-' || c = '.'

/-- Reads the scheme, with the text after its colon. -/
def readScheme (cs : List Char) : Option (String × List Char) :=
  let name := cs.takeWhile isSchemeChar
  match name.head?, cs.drop name.length with
  | some first, ':' :: rest =>
    if first.isAlpha then some (String.ofList (name.map Char.toLower), rest) else none
  | _, _ => none

/-! ## Paths -/

/-- The kind divides its path at this character. -/
def Kind.isSlash (kind : Kind) (c : Char) : Bool := c = '/' || (kind ≠ .plain && c = '\\')

/-- The character ends the part of a URL that holds the host. -/
def Kind.endsHost (kind : Kind) (c : Char) : Bool := kind.isSlash c || c = '?' || c = '#'

/-- The parts of a text between its slashes. -/
def Kind.split (kind : Kind) (cs : List Char) : List (List Char) :=
  cs.foldr (fun c parts => if kind.isSlash c then [] :: parts
    else match parts with
      | [] => [[c]]
      | p :: rest => (c :: p) :: rest) [[]]

/-- The segment stands for the one it is in. -/
def isHere (part : List Char) : Bool :=
  [".", "%2e"].contains (String.ofList (part.map Char.toLower))

/-- The segment stands for the one before. -/
def isAbove (part : List Char) : Bool :=
  ["..", ".%2e", "%2e.", "%2e%2e"].contains (String.ofList (part.map Char.toLower))

/-- A letter and a colon or bar, as a path on `file` may begin. -/
def isDrive (part : List Char) : Bool :=
  match part with
  | [c, d] => c.isAlpha && (d = ':' || d = '|')
  | _ => false

/-- Takes the last segment off, unless it is the drive that a `file` path begins with. -/
def Kind.shorten (kind : Kind) (done : List String) : List String :=
  match kind, done with
  | .file, [drive] => if isDrive drive.toList then done else []
  | _, _ => done.dropLast

/-- Adds the parts of a path to the segments so far; only the last part leaves an empty segment
where it stands for another place. -/
def Kind.walk (kind : Kind) (done : List String) : List (List Char) → List String
  | [] => done
  | part :: rest =>
    if isAbove part then
      let shorter := kind.shorten done
      kind.walk (if rest.isEmpty then shorter ++ [""] else shorter) rest
    else if isHere part then kind.walk (if rest.isEmpty then done ++ [""] else done) rest
    else
      let encoded :=
        if kind = .file ∧ done.isEmpty ∧ isDrive part then
          String.ofList (part.take 1 ++ [':'])
        else percentEncode inPathSet part
      kind.walk (done ++ [encoded]) rest

/-- Reads the path, query and fragment behind the host. -/
def readTail (kind : Kind) (url : Url) (cs : List Char) : Url :=
  let path := cs.takeWhile fun c => c ≠ '?' && c ≠ '#'
  let rest := cs.drop path.length
  let parts :=
    match path with
    | [] => if kind = .plain then [] else [[]]
    | c :: more => kind.split (if kind.isSlash c then more else path)
  let query := match rest with
    | '?' :: more => some (more.takeWhile (· ≠ '#'))
    | _ => none
  let fragment := match rest.dropWhile (· ≠ '#') with
    | _ :: more => some more
    | [] => none
  { url with
    path := match url.path with
      | .opaqueText _ => .opaqueText (percentEncode inControlSet path)
      | .segments _ => .segments (kind.walk [] parts)
    query := query.map (percentEncode (inQuerySet (kind ≠ .plain)))
    fragment := fragment.map (percentEncode inFragmentSet) }

/-! ## Authorities -/

/-- The characters before the last `@` and those after it. -/
def splitUser (cs : List Char) : Option (List Char × List Char) :=
  let host := (cs.reverse.takeWhile (· ≠ '@')).reverse
  if host.length = cs.length then none
  else some (cs.take (cs.length - host.length - 1), host)

/-- The characters before the first colon outside brackets and, if there is one, those after it. -/
def splitPort (bracketed : Bool) : List Char → List Char × Option (List Char)
  | [] => ([], none)
  | c :: rest =>
    if c = ':' ∧ !bracketed then ([], some rest)
    else
      let (host, port) :=
        splitPort (if c = '[' then true else if c = ']' then false else bracketed) rest
      (c :: host, port)

/-- Reads the digits of a port; one that the scheme stands for, or none at all, is left out. -/
def readPortDigits (scheme : String) (cs : List Char) : Except Fault (Option UInt16) :=
  if cs.isEmpty then .ok none
  else
    match readDigits 10 maxPort 0 cs with
    | .error _ => .error .badPort
    | .ok n => .ok (if defaultPort scheme = some n then none else some n.toUInt16)

/-- Reads a name and password, if either is there. -/
def readUser (cs : List Char) : Option User :=
  let name := percentEncode inUserSet (cs.takeWhile (· ≠ ':'))
  let password := match cs.dropWhile (· ≠ ':') with
    | _ :: more => percentEncode inUserSet more
    | [] => ""
  if name = "" ∧ password = "" then none
  else some ⟨name, if password = "" then none else some password⟩

/-- Reads what follows the two slashes. A mark `@` with nothing before it and no host behind it is
a missing host, also where the scheme needs none. -/
def readAuthority (read : DomainReader) (scheme : String) (kind : Kind) (cs : List Char) :
    Except Fault Url := do
  let authority := cs.takeWhile fun c => !kind.endsHost c
  let rest := cs.drop authority.length
  let (user, place) := (splitUser authority).getD ([], authority)
  if user.isEmpty ∧ place.isEmpty ∧ !authority.isEmpty ∧ !rest.isEmpty then throw .emptyHost
  let user := readUser user
  let (hostText, portText) := splitPort false place
  let host ← match hostText with
    | [] => if kind = .hosted ∨ portText.isSome ∨ user.isSome then throw .emptyHost else pure none
    | _ => some <$> if kind = .plain then readOpaqueHost hostText else readHost read hostText
  let digits := (portText.getD []).takeWhile (· ≠ '\\')
  let port ← readPortDigits scheme digits
  let rest := (portText.getD []).drop digits.length ++ rest
  return readTail kind
    { scheme := scheme, user := user, host := host, port := port, path := .segments [] } rest

/-- Reads what follows `file:`. The name of this host is left out. -/
def readFile (read : DomainReader) (cs : List Char) : Except Fault Url := do
  let url : Url := { scheme := "file", path := .segments [] }
  let slashes := (cs.takeWhile (Kind.file.isSlash ·)).length
  if slashes < 2 then return readTail .file url cs
  let cs := cs.drop 2
  let hostText := cs.takeWhile fun c => !Kind.file.endsHost c
  if hostText.isEmpty ∨ isDrive hostText then return readTail .file url cs
  let host ← readHost read hostText
  return readTail .file
    { url with host := if host = .name "localhost" then none else some host }
    (cs.drop hostText.length)

/-! ## Whole URLs -/

/-- A character that is ignored around a URL. -/
def isOuter (c : Char) : Bool := c.toNat ≤ 0x20

/-- The characters of a URL's text that count. -/
def inkOf (s : String) : List Char :=
  (((s.toList.dropWhile isOuter).reverse.dropWhile isOuter).reverse).filter fun c =>
    c ≠ '\t' && c ≠ '\n' && c ≠ '\r'

/-- Reads an absolute URL. -/
def parse (read : DomainReader) (s : String) : Except Fault Url :=
  match readScheme (inkOf s) with
  | none => .error .noScheme
  | some (scheme, rest) =>
    match Kind.ofScheme scheme, rest with
    | .hosted, _ => readAuthority read scheme .hosted (rest.dropWhile Kind.hosted.isSlash)
    | .file, _ => readFile read rest
    | .plain, '/' :: '/' :: more => readAuthority read scheme .plain more
    | .plain, '/' :: _ => .ok (readTail .plain { scheme := scheme, path := .segments [] } rest)
    | .plain, _ => .ok (readTail .plain { scheme := scheme, path := .opaqueText "" } rest)

/-- The text of a path. -/
def Path.text : Path → String
  | .opaqueText text => text
  | .segments parts => String.join (parts.map fun p => "/" ++ p)

/-- The text of a user. -/
def User.text (u : User) : String :=
  u.name ++ (match u.password with
    | some p => ":" ++ p
    | none => "") ++ "@"

/-- The text of a URL. -/
def text (u : Url) : String :=
  let authority := match u.host with
    | some h =>
      "//" ++ (u.user.map User.text).getD "" ++ h.text ++
        (match u.port with
          | some p => ":" ++ toString p.toNat
          | none => "")
    | none => if u.scheme = "file" then "//" else ""
  let query := match u.query with
    | some q => "?" ++ q
    | none => ""
  let fragment := match u.fragment with
    | some f => "#" ++ f
    | none => ""
  u.scheme ++ ":" ++ authority ++ u.path.text ++ query ++ fragment

end Tether.Url
