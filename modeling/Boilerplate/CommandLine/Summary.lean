import Boilerplate.Merge.Plan
import Boilerplate.Strategy.Basic
import Boilerplate.Table

/-! What commands print for people. -/
namespace Boilerplate.CommandLine
open Merge

/-- Rows with their numbers, from one, in a first column. -/
def numbered (header : List String) (rows : List (List String)) : Table where
  header := "#" :: header
  rows := rows.mapIdx fun n cells => toString (n + 1) :: cells
  firstIsRight := true

def instructionCells : Instruction → List String
  | .remove member => ["remove", member.shown, "-"]
  | .insert insertion =>
    [if insertion.conflict then "insert (conflict)" else "insert", insertion.member.shown,
     insertion.anchor.shown]
  | .implementInterface interface => ["implement", interface, "-"]

def decisionTable (decisions : List ConstantDecision) : Table where
  header := ["Constant", "Decision"]
  rows := decisions.map fun entry => [entry.identifier, entry.decision.title]
  firstIsRight := false

def planCounts (plan : EditPlan) : String :=
  toString plan.insertions.length ++ " insertion(s), " ++ toString plan.removals.length ++
    " removal(s), " ++ toString plan.conflicts ++ " conflict(s)\n"

/-- A plan with its decisions, its instructions and their counts. -/
def planSummary (className : String) (plan : EditPlan) : String :=
  "Class: " ++ className ++ "\n" ++
    (if plan.decisions.isEmpty then "" else (decisionTable plan.decisions).text) ++
    (if plan.isNoop then "No changes.\n"
     else
      (numbered ["Op", "Member", "Anchor"] (plan.instructions.map instructionCells)).text ++
        planCounts plan)

def strategyTable (order : List Strategy) : Table :=
  numbered ["Strategy", "Claims"]
    (order.map fun strategy => [strategy.title, strategy.claimedTypes])

/-- A type and the strategy that claims it, if one does. -/
structure ResolutionRow where
  /-- The field that has the type, or a dash. -/
  subject : String
  declaredType : String
  strategy : Option Strategy
deriving DecidableEq, Repr

def resolutionTable (rows : List ResolutionRow) : Table where
  header := ["Field", "Type", "Strategy"]
  rows := rows.map fun row =>
    [row.subject, row.declaredType, (row.strategy.map Strategy.title).getD "unsupported"]
  firstIsRight := false

end Boilerplate.CommandLine
