import Boilerplate.CommandLine.Program

/-! The program on the files and the streams of the system. -/
namespace Boilerplate
open CommandLine

/-- Error codes come with either sign. -/
def faultOf : IO.Error → FileFault
  | .noFileOrDirectory .. => .notFound
  | .inappropriateType _ code _ =>
    if code == 20 || code == -20 then .notADirectory else .isADirectory
  | error => .other error.toString

/-- What comes of an access to a file. -/
def attemptAccess {α : Type} (access : IO α) : IO (Except FileFault α) := do
  match ← access.toBaseIO with
  | .ok value => return .ok value
  | .error error => return .error (faultOf error)

def isRegularFile (path : String) : IO Bool := do
  let place := (← IO.currentDir) / path
  return (← place.pathExists) && !(← place.isDir)

def appendTo (path text : String) : IO Unit :=
  IO.FS.withFile path .append fun handle => handle.putStr text

def carryOut {α : Type} : Script α → IO α
  | .done value => return value
  | .readFile path next => do carryOut (next (← attemptAccess (IO.FS.readFile path)))
  | .isFile path next => do carryOut (next (← isRegularFile path))
  | .writeFile path text next => do
    carryOut (next (← attemptAccess (IO.FS.writeFile path text)))
  | .appendFile path text next => do carryOut (next (← attemptAccess (appendTo path text)))
  | .print text next => do
    IO.print text
    carryOut (next ())
  | .report text next => do
    IO.eprint text
    carryOut (next ())

def readEnvironment : IO Environment := do
  return {
    logDirectives := ← IO.getEnv Environment.logVariable
    configPath := ← IO.getEnv Environment.configVariable
    workingDirectory := (← IO.currentDir).toString }

end Boilerplate

def main (arguments : List String) : IO UInt32 := do
  let environment ← Boilerplate.readEnvironment
  return (← Boilerplate.carryOut (Boilerplate.CommandLine.program environment arguments)).code
