/-!
Faults of input and output: a kind that a caller may branch on and a text that it may show.
-/

namespace Tether.Net

/-- A fault of input or output. -/
structure Fault where
  kind : String
  text : String
  deriving DecidableEq, Repr

namespace Fault

/-- The stream's other end is gone. -/
def brokenPipe : Fault := ⟨"BrokenPipe", "broken pipe"⟩

/-- The stream ended before all expected bytes had come. -/
def earlyEnd : Fault := ⟨"UnexpectedEof", "early eof"⟩

/-- A writer took none of the bytes offered. -/
def writeZero : Fault := ⟨"WriteZero", "write zero"⟩

/-- A fault that the operating system reports by number. -/
def ofSystem (kind text : String) (number : Nat) : Fault :=
  ⟨kind, text ++ " (os error " ++ toString number ++ ")"⟩

/-- No route leads to the address. -/
def unreachable : Fault := ofSystem "NetworkUnreachable" "Network is unreachable" 101

/-- Something is bound to the address and port already. -/
def addressInUse : Fault := ofSystem "AddrInUse" "Address already in use" 98

/-- The address is none of this host's. -/
def addressNotAvailable : Fault :=
  ofSystem "AddrNotAvailable" "Cannot assign requested address" 99

/-- There is no such file. -/
def notFound : Fault := ofSystem "NotFound" "No such file or directory" 2

/-- A directory stands where a file was wanted. -/
def isDirectory : Fault := ofSystem "IsADirectory" "Is a directory" 21

/-- A file stands where a directory was wanted. -/
def notDirectory : Fault := ofSystem "NotADirectory" "Not a directory" 20

/-- Something of that name stands there already. -/
def alreadyExists : Fault := ofSystem "AlreadyExists" "File exists" 17

/-- A part of the path is longer than a file name may be. -/
def nameTooLong : Fault := ofSystem "InvalidFilename" "File name too long" 36

/-- A path holds the null character. -/
def nullInName : Fault := ⟨"InvalidInput", "file name contained an unexpected NUL byte"⟩

/-- A file's bytes are no text in UTF-8. -/
def notText : Fault := ⟨"InvalidData", "stream did not contain valid UTF-8"⟩

/-- The interrupted call may be made again. -/
def isInterrupted (f : Fault) : Bool := f.kind == "Interrupted"

end Fault

end Tether.Net
