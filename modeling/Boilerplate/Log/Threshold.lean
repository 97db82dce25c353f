import Boilerplate.Log.Event

/-! The levels up to which a log shows events. -/
namespace Boilerplate.Log

/-- The most detailed level that is shown, if any. -/
inductive Threshold where
  | off
  | upTo (level : Level)
deriving DecidableEq, Repr, Inhabited

namespace Threshold

def rank : Threshold → Nat
  | off => 0
  | upTo level => level.rank

def shows (threshold : Threshold) (level : Level) : Bool := level.rank ≤ threshold.rank

def all : List Threshold :=
  [off, upTo .error, upTo .warn, upTo .info, upTo .debug, upTo .trace]

def name : Threshold → String
  | off => "off"
  | upTo .error => "error"
  | upTo .warn => "warn"
  | upTo .info => "info"
  | upTo .debug => "debug"
  | upTo .trace => "trace"

def max (first second : Threshold) : Threshold :=
  if first.rank ≤ second.rank then second else first

/-- The most detailed of them. -/
def greatest (thresholds : List Threshold) : Threshold := thresholds.foldl max off

/-- That many steps from a rank, within bounds. -/
def ofRank (rank : Int) : Threshold :=
  (all[rank.toNat]?).getD (upTo .trace)

def digits? (cs : List Char) : Option Nat :=
  let digits := match cs with
    | '+' :: rest => rest
    | cs => cs
  if digits.isEmpty || !digits.all Char.isDigit then none
  else some (digits.foldl (fun n c => 10 * n + (c.toNat - '0'.toNat)) 0)

/-- A threshold by its rank or its name, in any case. Nothing at all means errors. -/
def parse? (text : String) : Option Threshold :=
  match digits? text.toList with
  | some rank => all[rank]?
  | none =>
    if text.isEmpty then some (upTo .error)
    else all.find? fun threshold => threshold.name.toList == text.toList.map Char.toLower

end Threshold

end Boilerplate.Log
