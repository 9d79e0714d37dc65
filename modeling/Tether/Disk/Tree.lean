import Tether.Net.Fault

/-!
Directories and files, by the names on their paths from the root. `makeAll` makes a directory with
all those above it that are missing, one by one from the top, so those made before a fault stay.
`read` follows a path to a file.
-/

namespace Tether.Disk

open Tether.Net

/-- A place, by the names that lead to it from the root. -/
abbrev Place := List String

/-- What is there: every directory but the root, and every file with its bytes. -/
structure Tree where
  directories : List Place := []
  files : List (Place × List UInt8) := []
  /-- Where paths start that have no slash in front. -/
  here : Place := []
  deriving DecidableEq, Repr

/-- The most bytes of a name. -/
def maxName : Nat := 255

/-- The most bytes of a path. -/
def maxPath : Nat := 4095

/-- The names on a path; a doubled slash stands for one, and a last one for the name `.`. -/
def steps (path : String) : List String :=
  (path.splitOn "/").filter (· ≠ "") ++ if path.endsWith "/" then ["."] else []

/-- The place one name further; `.` stays and `..` leads back. -/
def enter (place : Place) (name : String) : Place :=
  if name = "." then place
  else if name = ".." then place.dropLast
  else place ++ [name]

/-- Why no path of this text can be followed, whatever there is. -/
def pathFault? (path : String) : Option Fault :=
  if path.toList.contains '\x00' then some .nullInName
  else if maxPath < path.utf8ByteSize then some .nameTooLong
  else none

namespace Tree

/-- There is a directory at a place. -/
def isDirectory (t : Tree) (place : Place) : Bool :=
  place.isPrefixOf t.here || t.directories.contains place

/-- There is a file at a place. -/
def isFile (t : Tree) (place : Place) : Bool := (t.files.lookup place).isSome

/-- Where a path starts. -/
def origin (t : Tree) (path : String) : Place := if path.startsWith "/" then [] else t.here

/-! ## Following -/

/-- Follows names from a place to where something is. -/
def followFrom (t : Tree) (place : Place) : List String → Except Fault Place
  | [] => if t.isDirectory place || t.isFile place then .ok place else .error .notFound
  | name :: rest =>
    if t.isFile place then .error .notDirectory
    else if !t.isDirectory place then .error .notFound
    else if maxName < name.utf8ByteSize then .error .nameTooLong
    else t.followFrom (enter place name) rest

/-- Follows a path to where something is. -/
def follow (t : Tree) (path : String) : Except Fault Place :=
  match pathFault? path with
  | some fault => .error fault
  | none => if path = "" then .error .notFound else t.followFrom (t.origin path) (steps path)

/-- There is a directory at a path. -/
def hasDirectory (t : Tree) (path : String) : Bool := (t.follow path).toOption.any t.isDirectory

/-- The bytes of the file at a path. -/
def read (t : Tree) (path : String) : Except Fault (List UInt8) :=
  match t.follow path with
  | .error fault => .error fault
  | .ok place =>
    match t.files.lookup place with
    | some bytes => .ok bytes
    | none => .error .isDirectory

/-! ## Making -/

/-- Makes the directories on the way from a place. -/
def makeFrom (t : Tree) (place : Place) : List String → Tree × Except Fault Unit
  | [] => (t, .ok ())
  | name :: rest =>
    let next := enter place name
    if maxName < name.utf8ByteSize then (t, .error .nameTooLong)
    else if t.isFile next then
      (t, .error (if rest.isEmpty then .alreadyExists else .notDirectory))
    else if t.isDirectory next then t.makeFrom next rest
    else { t with directories := next :: t.directories }.makeFrom next rest

/-- Makes a directory and all above it. An empty path is the place where one is, and a last name
`.` stands for a directory that has to be there: only those above it are made. -/
def makeAll (t : Tree) (path : String) : Tree × Except Fault Unit :=
  match pathFault? path with
  | some fault => (t, .error fault)
  | none =>
    let names := (path.splitOn "/").filter (· ≠ "")
    let known := names.filter (· ≠ ".")
    if names.getLast? ≠ some "." then t.makeFrom (t.origin path) known
    else
      match t.makeFrom (t.origin path) known.dropLast with
      | (t, .error fault) => (t, .error fault)
      | (t, .ok ()) =>
        match t.followFrom (t.origin path) (known ++ ["."]) with
        | .ok _ => (t, .ok ())
        | .error fault => (t, .error fault)

end Tree

end Tether.Disk
