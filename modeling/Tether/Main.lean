import Tether.Control.Source
import Tether.Program.Launch

/-!
The program. It reads its arguments, its environment and the file that the arguments name, and
prints what the launch of the run prints. A run that gets through then asks for a key again and
again. No link leads from here to the key service, so every attempt fails and the log tells so.
-/

namespace Tether.Program

open Tether.Config Tether.Control

/-- The assignments that the environment holds. -/
def readEnvironment : IO Environment := do
  let bytes ← try IO.FS.readBinFile "/proc/self/environ" catch _ => pure ByteArray.empty
  let lines := ((String.fromUTF8? bytes).getD "").splitOn "\x00"
  return (lines.filter (· ≠ "")).map fun line =>
    let cs := line.toList
    (String.ofList (cs.takeWhile (· ≠ '=')), String.ofList ((cs.dropWhile (· ≠ '=')).drop 1))

/-- The fault that a file operation reported. -/
def faultOf : IO.Error → Net.Fault
  | .noFileOrDirectory .. => .notFound
  | .inappropriateType .. => .isDirectory
  | e => ⟨"Other", toString e⟩

/-- What is at a path. -/
def readFile (path : String) : IO (Except Net.Fault (List UInt8)) := do
  try return .ok (← IO.FS.readBinFile path).toList
  catch e => return .error (faultOf e)

/-- Random bits for the names that nobody gave. -/
def drawNames : IO Draws := do
  let number := fun (bytes : List UInt8) => bytes.foldl (fun n b => n * 256 + b.toNat) 0
  let bytes := (← IO.getRandomBytes 20).toList
  return ⟨(number (bytes.take 4)).toUInt32, (number ((bytes.drop 4).take 8)).toUInt64,
    (number (bytes.drop 12)).toUInt64⟩

/-- Prints the entries of the log. -/
def printLog (entries : List Entry) : IO Unit := do
  for e in entries do
    IO.println (entryLine e)
  (← IO.getStdout).flush

/-- Waits for so many milliseconds. -/
def rest (millis : Nat) : IO Unit := do
  for _ in [0:millis / 60000] do
    IO.sleep 60000
  IO.sleep (millis % 60000).toUInt32

/-- Asks for a key until one comes. -/
partial def pursue (w : Launched) (attempt : Nat) : IO Unit := do
  let retry := w.settings.agent.keyRetry
  match w.client.ask .down with
  | .ok _ => return
  | .error e =>
    printLog ([Pursuit.failedEntry attempt retry e].filter w.filter.shows)
    rest retry.ticks
    pursue w (attempt + 1)

end Tether.Program

open Tether.Config Tether.Program in
/-- Runs the program; the exit code is that of the run. -/
def main (words : List String) : IO UInt32 := do
  let env ← readEnvironment
  let file ← match Args.read env words with
    | .ok { config := some path, .. } => readFile path
    | _ => pure (.error .notFound)
  let run := launch (fun _ => file) { env := env } (← drawNames) words
  printLog run.log
  IO.print run.out
  IO.eprint run.errors
  match run.outcome with
  | .exited code => return code.toUInt32
  | .waiting w | .running w =>
    pursue w 1
    return 0
