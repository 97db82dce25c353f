import Boilerplate.CommandLine.Files

/-! What a command does, step by step: reading and writing files, and printing. A script is a value,
so that it can be carried out on real files as well as on a tree of texts. -/
namespace Boilerplate.CommandLine

inductive Script (α : Type) : Type where
  | done (value : α)
  | readFile (path : String) (next : Except FileFault String → Script α)
  | isFile (path : String) (next : Bool → Script α)
  | writeFile (path text : String) (next : Except FileFault Unit → Script α)
  /-- Adds to the end of a file. -/
  | appendFile (path text : String) (next : Except FileFault Unit → Script α)
  | print (text : String) (next : Unit → Script α)
  /-- Prints where errors go. -/
  | report (text : String) (next : Unit → Script α)

namespace Script

variable {α β : Type}

def bind : Script α → (α → Script β) → Script β
  | done value, f => f value
  | readFile path next, f => readFile path fun answer => (next answer).bind f
  | isFile path next, f => isFile path fun answer => (next answer).bind f
  | writeFile path text next, f => writeFile path text fun answer => (next answer).bind f
  | appendFile path text next, f => appendFile path text fun answer => (next answer).bind f
  | print text next, f => print text fun answer => (next answer).bind f
  | report text next, f => report text fun answer => (next answer).bind f

instance : Monad Script where
  pure := done
  bind := bind

end Script

/-- What a script works on, and what it has printed. -/
structure World where
  files : Files
  output : String
  errors : String
deriving DecidableEq, Repr

namespace World

/-- A change of the files, if it is possible. -/
def change (world : World) (files : Except FileFault Files) : World × Except FileFault Unit :=
  match files with
  | .ok files => ({ world with files := files }, .ok ())
  | .error fault => (world, .error fault)

end World

/-- Carries a script out. A write that fails changes nothing. -/
def Script.run {α : Type} : Script α → World → World × α
  | done value, world => (world, value)
  | readFile path next, world => (next (world.files.read path)).run world
  | isFile path next, world => (next (world.files.isFile path)).run world
  | writeFile path text next, world =>
    let (world, answer) := world.change (world.files.write path text)
    (next answer).run world
  | appendFile path text next, world =>
    let (world, answer) := world.change (world.files.append path text)
    (next answer).run world
  | print text next, world => (next ()).run { world with output := world.output ++ text }
  | report text next, world => (next ()).run { world with errors := world.errors ++ text }

end Boilerplate.CommandLine
