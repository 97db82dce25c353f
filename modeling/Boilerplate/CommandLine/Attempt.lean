import Boilerplate.CommandLine.Failure
import Boilerplate.CommandLine.Script

/-! Scripts that may give up. What was done up to then stays done. -/
namespace Boilerplate.CommandLine

/-- A script that may give up. -/
abbrev Attempt := ExceptT Failure Script

namespace Attempt

def ofScript {α : Type} (script : Script α) : Attempt α := ExceptT.lift script

def fail {α : Type} (failure : Failure) : Attempt α := throw failure

def ofOutcome {α ε : Type} (failure : ε → Failure) : Except ε α → Attempt α
  | .ok value => pure value
  | .error cause => throw (failure cause)

def readFile (failure : FileFault → Failure) (path : String) : Attempt String := do
  ofOutcome failure (← ofScript (.readFile path pure))

def writeFile (failure : FileFault → Failure) (path text : String) : Attempt Unit := do
  ofOutcome failure (← ofScript (.writeFile path text pure))

def print (text : String) : Attempt Unit := ofScript (.print text pure)

end Attempt

end Boilerplate.CommandLine
