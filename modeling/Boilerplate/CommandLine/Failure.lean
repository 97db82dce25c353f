import Boilerplate.CommandLine.Files
import Boilerplate.Config
import Boilerplate.Toolchain

/-! Why a command gives up. -/
namespace Boilerplate.CommandLine

/-- A file that a command reads or writes, by what is in it. -/
inductive Content where
  | classDescriptor
  | classSnapshot
  | output
deriving DecidableEq, Repr

def Content.title : Content → String
  | classDescriptor => "class descriptor"
  | classSnapshot => "class snapshot"
  | output => "output"

inductive Failure where
  | unreadableConfig (path : String) (fault : FileFault)
  | malformedConfig (path : String)
  | invalidConfig (cause : ConfigError)
  | unreadable (content : Content) (path : String) (fault : FileFault)
  | malformed (content : Content) (path : String)
  | unwritable (content : Content) (path : String) (fault : FileFault)
  | notGenerated (dataClass : DataClass) (cause : GenerateError)
  | nothingToResolve

namespace Failure

/-- The fault is told by the configuration and once more as its cause. -/
def configMessage (text path fault : String) : String :=
  "load configuration: " ++ text ++ " " ++ path ++ ": " ++ fault ++ ": " ++ fault

def contentMessage (verb : String) (content : Content) (path fault : String) : String :=
  verb ++ " " ++ content.title ++ " " ++ path ++ ": " ++ fault

def message : Failure → String
  | unreadableConfig path fault => configMessage "failed to read config" path fault.message
  | malformedConfig path => configMessage "failed to parse TOML config" path "not a configuration"
  | invalidConfig cause => "load configuration: " ++ cause.message
  | unreadable content path fault => contentMessage "read" content path fault.message
  | malformed content path =>
    contentMessage "parse" content path ("not a " ++ content.title)
  | unwritable content path fault => contentMessage "write" content path fault.message
  | notGenerated dataClass cause => Toolchain.errorMessage dataClass cause
  | nothingToResolve => "nothing to resolve: pass type names or --class"

end Failure
end Boilerplate.CommandLine
