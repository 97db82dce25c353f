import Boilerplate.Document.JsonPrinter
import Boilerplate.Log.Span

/-! Lines of a log. Events inside a command's span show the span and its class. -/
namespace Boilerplate.Log

inductive Format where
  | pretty
  | compact
  | json
deriving DecidableEq, Repr, Inhabited

namespace Format

def prettyLine (span : Option Span) (event : Event) : String :=
  let context := match span with
    | some span =>
      span.name ++ "\x7b" ++ Span.fieldName ++ "=" ++ span.className ++ "\x7d: "
    | none => ""
  event.level.label ++ " " ++ context ++ event.message ++ Event.fieldText event.fields

def compactLine (span : Option Span) (event : Event) : String :=
  match span with
  | some span =>
    event.level.label ++ " " ++ span.name ++ ": " ++ event.message ++
      Event.fieldText event.fields ++ " " ++ Span.fieldName ++ "=" ++ span.className
  | none => event.line

def jsonField (entry : String × FieldValue) : String × Document :=
  (entry.1, match entry.2 with
    | .plain text => .text text
    | .quoted text => .text text
    | .count n => .natural n)

def jsonLine (span : Option Span) (event : Event) : String :=
  Json.compact (.record ([("level", .text event.level.label.trimAscii.toString),
    ("fields", .record ((Event.messageName, .text event.message) :: event.fields.map jsonField))] ++
    Document.entryOf "span" (fun span : Span =>
      .record [(Span.fieldName, .text span.className), ("name", .text span.name)]) span))

def line (format : Format) (span : Option Span) (event : Event) : String :=
  (match format with
    | pretty => prettyLine span event
    | compact => compactLine span event
    | json => jsonLine span event) ++ "\n"

end Format
end Boilerplate.Log
