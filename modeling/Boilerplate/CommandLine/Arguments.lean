import Boilerplate.Generator
import Boilerplate.Log.Format
import Boilerplate.Log.Threshold

/-! The command line: a command with its arguments, and options, of which some may stand before the
command as well as after it. -/
namespace Boilerplate.CommandLine
open Log

inductive OutputFormat where
  | text
  | json
deriving DecidableEq, Repr

inductive Command where
  | generate (classPath : String) (kind : ArtifactKind) (format : OutputFormat)
      (output : Option String)
  | plan (classPath : String) (snapshotPath : Option String) (kind : ArtifactKind)
      (format : OutputFormat) (writeSnapshot : Option String)
  | strategies
  | resolve (types : List String) (classPath : Option String)
deriving DecidableEq, Repr

/-- Options that every command takes. -/
structure Settings where
  config : Option String
  /-- The threshold that was asked for, by whatever option. -/
  threshold : Option Threshold
  format : Format
  logFile : Option String
deriving Repr

inductive Invocation where
  | run (settings : Settings) (command : Command)
  | version
  | help
  | misuse
deriving Repr

/-- What an option takes: nothing, as often as it is given, or one value, once. -/
inductive OptionKind where
  | counted
  | path
  | choice (values : List String)
deriving DecidableEq, Repr

structure OptionSpec where
  long : String
  short : Option Char
  kind : OptionKind
deriving DecidableEq, Repr

def levelNames : List String := ["error", "warn", "info", "debug", "trace"]

def commonOptions : List OptionSpec :=
  [⟨"verbose", some 'v', .counted⟩, ⟨"quiet", some 'q', .counted⟩,
   ⟨"color", none, .choice ["auto", "always", "never"]⟩, ⟨"config", none, .path⟩,
   ⟨"log-level", none, .choice levelNames⟩,
   ⟨"log-format", none, .choice ["pretty", "compact", "json"]⟩, ⟨"log-file", none, .path⟩]

def artifactsOption : OptionSpec := ⟨"artifacts", none, .choice ["schema", "parcelable", "all"]⟩

def formatOption : OptionSpec := ⟨"format", none, .choice ["text", "json"]⟩

/-- What one level of the command line takes: options, and words of a number in which it may go on
only if it takes any number. The top level ends at the name of a command. -/
structure Grammar where
  options : List OptionSpec
  /-- The most words, or any number. -/
  words : Option Nat
  isTop : Bool

def commandGrammar? : String → Option Grammar
  | "generate" =>
    some ⟨commonOptions ++ [artifactsOption, formatOption, ⟨"output", some 'o', .path⟩],
      some 1, false⟩
  | "plan" =>
    some ⟨commonOptions ++ [⟨"snapshot", none, .path⟩, artifactsOption, formatOption,
      ⟨"write-snapshot", none, .path⟩], some 1, false⟩
  | "strategies" => some ⟨commonOptions, some 0, false⟩
  | "resolve" => some ⟨commonOptions ++ [⟨"class", none, .path⟩], none, false⟩
  | _ => none

def topGrammar : Grammar := ⟨commonOptions, some 0, true⟩

/-- What was read at one level, the latest first. -/
structure Reading where
  /-- Options with their values, or none where they are counted. -/
  options : List (String × Option String)
  words : List String
deriving Repr

/-- Why reading stops early. -/
inductive Stop where
  | misuse
  | version
  | help
deriving DecidableEq, Repr

namespace Reading

def count (r : Reading) (name : String) : Nat := r.options.countP fun entry => entry.1 == name

def value? (r : Reading) (name : String) : Option String :=
  (r.options.find? fun entry => entry.1 == name).bind fun entry => entry.2

/-- Adds an option that takes no value. -/
def addCounted (r : Reading) (spec : OptionSpec) : Reading :=
  { r with options := (spec.long, none) :: r.options }

/-- Adds an option with a value, which must be of its kind and the first. -/
def addValue (r : Reading) (spec : OptionSpec) (value : String) : Except Stop Reading :=
  let fits := match spec.kind with
    | .counted => false
    | .path => value != ""
    | .choice values => values.contains value
  if fits && r.count spec.long == 0 then
    .ok { r with options := (spec.long, some value) :: r.options }
  else .error .misuse

/-- Adds a word, if there is room for one. No word names an empty path. -/
def addWord (r : Reading) (grammar : Grammar) (word : String) : Except Stop Reading :=
  match grammar.words with
  | none => .ok { r with words := word :: r.words }
  | some most =>
    if r.words.length < most && word != "" then .ok { r with words := word :: r.words }
    else .error .misuse

end Reading

/-- An argument that could be an option: it starts with a dash and goes on. -/
def looksLikeOption (argument : String) : Bool :=
  match argument.toList with
  | '-' :: _ :: _ => true
  | _ => false

/-- A letter after a single dash. The rest of the argument is more letters, or the value. -/
inductive Letters where
  /-- All letters were read. -/
  | ended (reading : Reading)
  /-- The last letter's value is the next argument. -/
  | waiting (reading : Reading) (spec : OptionSpec)

def readLetters (grammar : Grammar) : List Char → Reading → Except Stop Letters
  | [], r => .ok (.ended r)
  | c :: rest, r =>
    if c == 'h' then .error .help
    else if c == 'V' && grammar.isTop then .error .version
    else match grammar.options.find? fun spec => spec.short == some c with
      | none => .error .misuse
      | some spec =>
        if spec.kind = .counted then readLetters grammar rest (r.addCounted spec)
        else match rest with
          | [] => .ok (.waiting r spec)
          | '=' :: value => (r.addValue spec (String.ofList value)).map .ended
          | value => (r.addValue spec (String.ofList value)).map .ended

/-- A word after two dashes, with a value after an equals sign or as the next argument. -/
def readLong (grammar : Grammar) (cs : List Char) (r : Reading) : Except Stop Letters :=
  let name := String.ofList (cs.takeWhile (· != '='))
  let value := cs.dropWhile (· != '=')
  if name == "help" then .error (if value.isEmpty then .help else .misuse)
  else if name == "version" && grammar.isTop then
    .error (if value.isEmpty then .version else .misuse)
  else match grammar.options.find? fun spec => spec.long == name with
    | none => .error .misuse
    | some spec =>
      match spec.kind, value with
      | .counted, [] => .ok (.ended (r.addCounted spec))
      | .counted, _ => .error .misuse
      | _, [] => .ok (.waiting r spec)
      | _, _ :: value => (r.addValue spec (String.ofList value)).map .ended

/-- Reads one level. An option may wait for its value; after two dashes alone all is words. The top
level ends at the first word and gives it back with what follows. -/
def readLevel (grammar : Grammar) : List String → Option OptionSpec → Bool → Reading →
    Except Stop (Reading × List String)
  | [], some _, _, _ => .error .misuse
  | [], none, _, r => .ok (r, [])
  | argument :: rest, waiting, isVerbatim, r =>
    if isVerbatim then do readLevel grammar rest none true (← r.addWord grammar argument)
    else match waiting with
      | some spec =>
        if looksLikeOption argument then .error .misuse
        else do readLevel grammar rest none false (← r.addValue spec argument)
      | none =>
        match argument.toList with
        | ['-', '-'] => readLevel grammar rest none true r
        | '-' :: '-' :: cs => do
          match ← readLong grammar cs r with
          | .ended r => readLevel grammar rest none false r
          | .waiting r spec => readLevel grammar rest (some spec) false r
        | '-' :: c :: cs => do
          match ← readLetters grammar (c :: cs) r with
          | .ended r => readLevel grammar rest none false r
          | .waiting r spec => readLevel grammar rest (some spec) false r
        | _ =>
          if grammar.isTop then .ok (r, argument :: rest)
          else do readLevel grammar rest none false (← r.addWord grammar argument)

/-- Asking for more and for less of the log at one level exclude each other. -/
def isConsistent (r : Reading) : Bool := r.count "verbose" == 0 || r.count "quiet" == 0

/-- The value of a common option. What stands after the command counts for more. -/
def common? (top inner : Reading) (name : String) : Option String :=
  inner.value? name <|> top.value? name

def commonCount (top inner : Reading) (name : String) : Nat :=
  if inner.count name == 0 then top.count name else inner.count name

/-- The threshold asked for: by its name, or by steps from warnings up or down. -/
def requestedThreshold (top inner : Reading) : Option Threshold :=
  match common? top inner "log-level" with
  | some name => Threshold.parse? name
  | none =>
    let verbose := commonCount top inner "verbose"
    let quiet := commonCount top inner "quiet"
    if verbose == 0 && quiet == 0 then none
    else some (.ofRank ((Level.warn.rank : Int) + verbose - quiet))

def settings (top inner : Reading) : Settings where
  config := common? top inner "config"
  threshold := requestedThreshold top inner
  format := match common? top inner "log-format" with
    | some "compact" => .compact
    | some "json" => .json
    | _ => .pretty
  logFile := common? top inner "log-file"

def artifactKind (r : Reading) : ArtifactKind :=
  match r.value? "artifacts" with
  | some "schema" => .schema
  | some "parcelable" => .parcelable
  | _ => .all

def outputFormat (r : Reading) : OutputFormat :=
  match r.value? "format" with
  | some "json" => .json
  | _ => .text

/-- The command of that name with what was read for it. -/
def command? (name : String) (r : Reading) : Option Command :=
  match name, r.words with
  | "generate", [classPath] =>
    some (.generate classPath (artifactKind r) (outputFormat r) (r.value? "output"))
  | "plan", [classPath] =>
    some (.plan classPath (r.value? "snapshot") (artifactKind r) (outputFormat r)
      (r.value? "write-snapshot"))
  | "strategies", [] => some .strategies
  | "resolve", types => some (.resolve types.reverse (r.value? "class"))
  | _, _ => none

/-- Help on a command that is there, or on all. -/
def readHelp : List String → Stop
  | [] => .help
  | [name] => if (commandGrammar? name).isSome || name == "help" then .help else .misuse
  | _ => .misuse

def readInvocation (arguments : List String) : Except Stop Invocation := do
  let (top, rest) ← readLevel topGrammar arguments none false ⟨[], []⟩
  match rest with
  | [] => .error .misuse
  | name :: rest =>
    if name == "help" then .error (readHelp rest)
    else match commandGrammar? name with
      | none => .error .misuse
      | some grammar =>
        let (inner, _) ← readLevel grammar rest none false ⟨[], []⟩
        match command? name inner with
        | some command =>
          if isConsistent top && isConsistent inner then
            return .run (settings top inner) command
          else .error .misuse
        | none => .error .misuse

def Invocation.parse (arguments : List String) : Invocation :=
  match readInvocation arguments with
  | .ok invocation => invocation
  | .error .misuse => .misuse
  | .error .version => .version
  | .error .help => .help

end Boilerplate.CommandLine
