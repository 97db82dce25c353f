/-! A tree of text files, and what happens to reads and writes in it. Directories are there as far
as files are in them. -/
namespace Boilerplate.CommandLine

/-- Why a file cannot be read or written. -/
inductive FileFault where
  | notFound
  | notADirectory
  | isADirectory
  | other (text : String)
deriving DecidableEq, Repr

def FileFault.message : FileFault → String
  | notFound => "No such file or directory (os error 2)"
  | notADirectory => "Not a directory (os error 20)"
  | isADirectory => "Is a directory (os error 21)"
  | other text => text

def pathSteps (path : String) : List String := (path.toList.splitOn '/').map String.ofList

/-- An empty step or a dot stays in place, and two dots go back. -/
def takeStep (names : List String) (step : String) : List String :=
  if step == "" || step == "." then names
  else if step == ".." then names.dropLast
  else names ++ [step]

/-- The names along a path. -/
def pathNames (path : String) : List String := (pathSteps path).foldl takeStep []

/-- The path can only be that of a directory. -/
def endsInDirectory (path : String) : Bool :=
  match (pathSteps path).getLast? with
  | some step => ["", ".", ".."].contains step
  | none => true

/-- Texts by path. -/
structure Files where
  entries : List (List String × String)
deriving DecidableEq, Repr

namespace Files

def find? (files : Files) (names : List String) : Option String := files.entries.lookup names

def isDirectory (files : Files) (names : List String) : Bool :=
  names.isEmpty || files.entries.any fun entry =>
    names.isPrefixOf entry.1 && names.length < entry.1.length

/-- Where the path needs a directory there is a file. -/
def isBlocked (files : Files) (path : String) : Bool :=
  let names := pathNames path
  files.entries.any fun entry => entry.1.isPrefixOf names &&
    (entry.1.length < names.length || endsInDirectory path)

/-- Puts a text in the place of what is there, or at the end. -/
def put (files : Files) (names : List String) (text : String) : Files :=
  if (files.find? names).isSome then
    ⟨files.entries.map fun entry => if entry.1 == names then (names, text) else entry⟩
  else ⟨files.entries ++ [(names, text)]⟩

def ofTexts (texts : List (String × String)) : Files :=
  texts.foldl (fun files entry => files.put (pathNames entry.1) entry.2) ⟨[]⟩

def read (files : Files) (path : String) : Except FileFault String :=
  let names := pathNames path
  if files.isDirectory names then .error .isADirectory
  else if files.isBlocked path then .error .notADirectory
  else match files.find? names with
    | some text => .ok text
    | none => .error .notFound

def isFile (files : Files) (path : String) : Bool := (files.read path).toOption.isSome

/-- Changes the text of a file, which starts empty, as long as its directory is there. -/
def update (files : Files) (path : String) (change : String → String) : Except FileFault Files :=
  let names := pathNames path
  if files.isDirectory names then .error .isADirectory
  else if files.isBlocked path then .error .notADirectory
  else match files.find? names with
    | some text => .ok (files.put names (change text))
    | none =>
      if !files.isDirectory names.dropLast then .error .notFound
      else if endsInDirectory path then .error .isADirectory
      else .ok (files.put names (change ""))

def write (files : Files) (path text : String) : Except FileFault Files :=
  files.update path fun _ => text

def append (files : Files) (path text : String) : Except FileFault Files :=
  files.update path (· ++ text)

end Files
end Boilerplate.CommandLine
