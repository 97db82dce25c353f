import Boilerplate.Log.Event

/-! Spans of a log: the extent of a command that works on one class. -/
namespace Boilerplate.Log

structure Span where
  name : String
  className : String
deriving DecidableEq, Repr

namespace Span

/-- The only field of a span holds the name of the class. -/
def fieldName : String := "class"

/-- Commands open spans. -/
def source : Source := .command

def level : Level := .info

end Span
end Boilerplate.Log
