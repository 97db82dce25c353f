import Boilerplate.CommandLine.Arguments
import Boilerplate.CommandLine.Script
import Boilerplate.Log.Filter
import Boilerplate.Log.Format

/-! The log of a run: which events it shows, how, and where. -/
namespace Boilerplate.CommandLine
open Log

/-- What a run finds around it. -/
structure Environment where
  /-- The directives of the log. -/
  logDirectives : Option String
  configPath : Option String
  workingDirectory : String
deriving Repr

namespace Environment

/-- The variable that holds the directives of the log. -/
def logVariable : String := "RUST_LOG"

/-- The variable that holds the path of the configuration. -/
def configVariable : String := "DBM_CONFIG"

end Environment

structure Logger where
  filter : Filter
  format : Format
  /-- The file to which lines are added instead of being printed. -/
  file : Option String
deriving Repr

namespace Logger

/-- A threshold on the command line counts for more than directives in the environment, and these
for more than the usual threshold, unless they are malformed. -/
def filterOf (settings : Settings) (environment : Environment) : Filter :=
  let usual := (Filter.parse? (directives (settings.threshold.getD (.upTo .warn)))).getD []
  match settings.threshold with
  | some _ => usual
  | none => (environment.logDirectives.bind Filter.parse?).getD usual

def ofSettings (settings : Settings) (environment : Environment) : Logger :=
  ⟨filterOf settings environment, settings.format, settings.logFile⟩

/-- The lines of events within a span. -/
def lines (logger : Logger) (span : Option Span) (events : List Event) : List String :=
  let shown := span.filter logger.filter.showsSpan
  (events.filter (logger.filter.shows span)).map (logger.format.line shown)

def writeLine (logger : Logger) (line : String) : Script Unit :=
  match logger.file with
  | some path => Script.appendFile path line fun _ => pure ()
  | none => Script.report line fun _ => pure ()

def writeLines (logger : Logger) : List String → Script Unit
  | [] => pure ()
  | line :: more => do
    logger.writeLine line
    logger.writeLines more

def record (logger : Logger) (span : Option Span) (events : List Event) : Script Unit :=
  logger.writeLines (logger.lines span events)

/-- Makes sure that the file is there. -/
def start (logger : Logger) : Script (Except FileFault Unit) :=
  match logger.file with
  | some path => Script.appendFile path "" pure
  | none => pure (.ok ())

end Logger
end Boilerplate.CommandLine
