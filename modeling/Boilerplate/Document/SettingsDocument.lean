import Boilerplate.Config
import Boilerplate.Document.Basic
import Boilerplate.Strategy.Basic

/-! Options, registries, configurations and strategies as documents. Everything may be left out of a
configuration, but nothing may be added to it. -/
namespace Boilerplate
open Document

namespace Options

def columnNames : List String := ["log_tag", "conflict_note"]

def toDocument (options : Options) : Document :=
  record [("log_tag", text options.logTag), ("conflict_note", text options.conflictNote)]

def ofColumns? (columns : List (Option Document)) : Option Options := do
  let [logTag, conflictNote] := columns | none
  return {
    logTag := ← optional standard.logTag asText? logTag
    conflictNote := ← optional standard.conflictNote asText? conflictNote }

def ofDocument? (document : Document) : Option Options := do
  ofColumns? (← document.columns? columnNames)

end Options

namespace NameSet

def toDocument (s : NameSet) : Document := ofTexts s.names

def ofDocument? (document : Document) : Option NameSet := ofList <$> document.asTexts?

end NameSet

namespace Registry

def toDocument (r : Registry) : Document :=
  record [("enums", r.enums.toDocument), ("structured", r.structured.toDocument),
    ("serializable", r.serializable.toDocument)]

def ofDocument? (document : Document) : Option Registry := do
  let [enums, structured, serializable] ←
    document.columns? ["enums", "structured", "serializable"] | none
  return {
    enums := ← optional .empty NameSet.ofDocument? enums
    structured := ← optional .empty NameSet.ofDocument? structured
    serializable := ← optional .empty NameSet.ofDocument? serializable }

end Registry

namespace Config

/-- The columns of a record that has no other keys. The list form may go on after the last column
where the notation allows that. -/
def strictColumns? (maySurpass : Bool) (keys : List String) :
    Document → Option (List (Option Document))
  | record entries =>
    if entries.all fun entry => keys.contains entry.1 then (record entries).columns? keys else none
  | list items => (list (if maySurpass then items.take keys.length else items)).columns? keys
  | _ => none

def generatorOfDocument? (maySurpass : Bool) (document : Document) : Option Options := do
  Options.ofColumns? (← strictColumns? maySurpass Options.columnNames document)

def typesOfDocument? (maySurpass : Bool) (document : Document) :
    Option (List String × List String × List String) := do
  let [enums, structured, serializable] ←
    strictColumns? maySurpass ["enums", "structured", "serializable"] document | none
  return (← optional [] asTexts? enums, ← optional [] asTexts? structured,
    ← optional [] asTexts? serializable)

def toDocument (config : Config) : Document :=
  record [("generator", config.options.toDocument),
    ("types", record [("enums", ofTexts config.enums), ("structured", ofTexts config.structured),
      ("serializable", ofTexts config.serializable)])]

def ofDocument? (maySurpass : Bool) (document : Document) : Option Config := do
  let [generator, types] ← strictColumns? maySurpass ["generator", "types"] document | none
  let options ← optional .standard (generatorOfDocument? maySurpass) generator
  let (enums, structured, serializable) ←
    optional ([], [], []) (typesOfDocument? maySurpass) types
  return ⟨options, enums, structured, serializable⟩

end Config

namespace Strategy

def toDocument (strategy : Strategy) : Document := text strategy.id

def ofDocument? (document : Document) : Option Strategy := do
  let name ← document.asName?
  defaultOrder.find? fun strategy => strategy.id == name

end Strategy
end Boilerplate
