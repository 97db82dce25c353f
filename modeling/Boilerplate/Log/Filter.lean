import Boilerplate.Log.Directive

/-! Which events a log shows. A filter is a list of directives. An event is shown if the weightiest
of the general directives on it says so, or a contextual one on the span around it. -/
namespace Boilerplate.Log

abbrev Filter := List Directive

namespace Filter

def splitAtCommas (text : String) : List String :=
  (text.toList.splitOn ',').map String.ofList

/-- Directives with commas between. No directive at all shows errors only. -/
def parse? (text : String) : Option Filter := do
  match ← ((splitAtCommas text).filter fun part => !part.isEmpty).mapM Directive.parse? with
  | [] => return [.always (.upTo .error)]
  | directives => return directives

/-- Nothing beyond the most detailed threshold is ever shown. A directive that asks for a value
could show anything. -/
def ceiling (filter : Filter) : Threshold :=
  if filter.any Directive.asksValue then .upTo .trace
  else Threshold.greatest (filter.map Directive.threshold)

/-- Of two directives the one with the higher rank, or the later. -/
def heavier (best : Option Directive) (directive : Directive) : Option Directive :=
  match best with
  | none => some directive
  | some other => if other.isOutrankedBy directive then some directive else some other

/-- The general directive that decides among those that hold. -/
def deciding? (filter : Filter) (holds : Directive → Bool) : Option Directive :=
  (filter.filter fun directive => directive.isGeneral && holds directive).foldl heavier none

def showsAlone (filter : Filter) (event : Event) : Bool :=
  (filter.deciding? fun directive => directive.coversEvent event).any fun directive =>
    directive.threshold.shows event.level

/-- Of directives with one target only the last counts. -/
def latest : Filter → Filter
  | [] => []
  | directive :: rest =>
    if rest.any directive.sameTarget then latest rest else directive :: latest rest

/-- The contextual directives on a span, whatever value they ask for. -/
def onSpan (filter : Filter) (span : Span) : List Directive :=
  (latest (filter.filter Directive.isContextual)).filter fun directive => directive.coversSpan span

/-- The threshold for events inside a span. -/
def spanThreshold (filter : Filter) (span : Span) : Threshold :=
  if filter.ceiling.shows Span.level then
    Threshold.greatest
      (((filter.onSpan span).filter fun directive => directive.acceptsValue span).map
        Directive.threshold)
  else .off

/-- A span is shown if any contextual directive is on it, or by the general directives on its
source, whatever field they name. -/
def showsSpan (filter : Filter) (span : Span) : Bool :=
  filter.ceiling.shows Span.level &&
    (!(filter.onSpan span).isEmpty ||
      (filter.deciding? fun directive => directive.fits Span.source).any fun directive =>
        directive.threshold.shows Span.level)

def shows (filter : Filter) (span : Option Span) (event : Event) : Bool :=
  filter.ceiling.shows event.level &&
    (filter.showsAlone event ||
      span.any fun span => (filter.spanThreshold span).shows event.level)

end Filter

/-- The addresses of the program's own events. -/
def ownAddresses : List String :=
  ["dbm", "dbm_cli", "dbm_codec", "dbm_config", "dbm_generate", "dbm_merge", "dbm_model"]

/-- The directives of a threshold for the program's own events. All others show from warnings on. -/
def directives (threshold : Threshold) : String :=
  String.intercalate ","
    ("warn" :: ownAddresses.map fun address => address ++ "=" ++ threshold.name)

end Boilerplate.Log
