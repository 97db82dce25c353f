import Boilerplate.JavaType.Parser
import Boilerplate.Options
import Boilerplate.Registry

/-! The configuration: what the generator writes, and the types its registry knows. -/
namespace Boilerplate

structure Config where
  options : Options
  enums : List String
  structured : List String
  serializable : List String
deriving DecidableEq, Repr

/-- What is wrong with a configuration that could be read. -/
inductive ConfigError where
  | emptyLogTag
  | longConflictNote
  | malformedEntry (list : String) (cause : JavaType.Malformed)
  /-- An entry that is an array or has type arguments. -/
  | notAClassName (list entry : String)
deriving DecidableEq, Repr

namespace ConfigError

def entryMessage (list entry message : String) : String :=
  "invalid type name '" ++ entry ++ "' in [types]." ++ list ++ ": " ++ message

def optionMessage (option message : String) : String :=
  "invalid value for [generator]." ++ option ++ ": " ++ message

def message : ConfigError → String
  | emptyLogTag => optionMessage "log_tag" "must not be empty"
  | longConflictNote => optionMessage "conflict_note" "must be a single line"
  | malformedEntry list cause => entryMessage list cause.text cause.message
  | notAClassName list entry =>
    entryMessage list entry "expected a class name without type arguments or array suffix"

end ConfigError

namespace Config

def standard : Config := ⟨.standard, [], [], []⟩

instance : Inhabited Config := ⟨standard⟩

/-- An entry names a class: no type arguments, no array. -/
def checkEntry (list entry : String) : Except ConfigError Unit :=
  match JavaType.parse entry with
  | .error cause => .error (.malformedEntry list cause)
  | .ok type =>
    if type.isArray || !type.arguments.isEmpty then .error (.notAClassName list entry) else .ok ()

def checkEntries (list : String) : List String → Except ConfigError Unit
  | [] => .ok ()
  | entry :: more => do
    checkEntry list entry
    checkEntries list more

/-- Checks the options, then the lists in turn, up to the first fault. -/
def validate (config : Config) : Except ConfigError Unit :=
  if (Text.trim config.options.logTag).isEmpty then .error .emptyLogTag
  else if config.options.conflictNote.toList.contains '\n' then .error .longConflictNote
  else do
    checkEntries "enums" config.enums
    checkEntries "structured" config.structured
    checkEntries "serializable" config.serializable

def registry (config : Config) : Registry :=
  .ofLists config.enums config.structured config.serializable

end Config
end Boilerplate
