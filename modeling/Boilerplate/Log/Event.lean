import Boilerplate.Text.Quoted

/-! What a run reports about its progress. Events are values: an operation's events are computed
beside its result and never influence it. -/
namespace Boilerplate.Log

inductive Level where
  | error
  | warn
  | info
  | debug
  | trace
deriving DecidableEq, Repr, Inhabited

namespace Level

/-- More detailed levels have higher ranks. -/
def rank : Level → Nat
  | error => 1
  | warn => 2
  | info => 3
  | debug => 4
  | trace => 5

/-- Five characters wide, aligned to the right. -/
def label : Level → String
  | error => "ERROR"
  | warn => " WARN"
  | info => " INFO"
  | debug => "DEBUG"
  | trace => "TRACE"

end Level

/-- The part of the program that reports. Filters select events by the address of their source. -/
inductive Source where
  | command
  | pipeline
  | resolver
  | configuration
  | generator
  | mergePlanner
  | planApplication
deriving DecidableEq, Repr, Inhabited

def Source.address : Source → String
  | command => "dbm::commands"
  | pipeline => "dbm_cli::pipeline"
  | resolver => "dbm_codec::resolver"
  | configuration => "dbm_config::paths"
  | generator => "dbm_generate::generator"
  | mergePlanner => "dbm_merge::engine"
  | planApplication => "dbm_merge::apply"

inductive FieldValue where
  | plain (text : String)
  | quoted (text : String)
  | count (n : Nat)
deriving DecidableEq, Repr

def FieldValue.shown : FieldValue → String
  | plain text => text
  | quoted text => Text.quoted text
  | count n => toString n

structure Event where
  level : Level
  source : Source
  message : String
  fields : List (String × FieldValue)
deriving DecidableEq, Repr

namespace Event

/-- The message is a field too. -/
def messageName : String := "message"

/-- The fields, each after a blank. -/
def fieldText (fields : List (String × FieldValue)) : String :=
  String.join (fields.map fun entry => " " ++ entry.1 ++ "=" ++ entry.2.shown)

/-- One line without its end. -/
def line (event : Event) : String :=
  event.level.label ++ " " ++ event.message ++ fieldText event.fields

end Event
end Boilerplate.Log
