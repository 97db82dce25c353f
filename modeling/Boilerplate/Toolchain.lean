import Boilerplate.Config
import Boilerplate.Merge.Layout
import Boilerplate.Merge.Planner

/-! From a class and what its host has of it to the class with generated members: generate, plan,
apply. -/
namespace Boilerplate
open Log Merge

structure Toolchain where
  generator : Generator
  /-- The comment on conflicting declarations. -/
  note : String
deriving Inhabited

/-- A plan and the class after it. -/
structure PlanOutcome where
  plan : EditPlan
  merged : Snapshot
deriving DecidableEq, Repr

namespace Toolchain

def ofConfig (config : Config) : Toolchain :=
  ⟨⟨.ofRegistry config.registry, config.options⟩, config.options.conflictNote⟩

def standard : Toolchain := ofConfig .standard

def plan (t : Toolchain) (c : DataClass) (snapshot : Snapshot) (kind : ArtifactKind) :
    Except GenerateError PlanOutcome := do
  let set ← t.generator.generate c kind
  let plan := planClass t.note set snapshot
  return ⟨plan, apply snapshot plan⟩

def planEvents (t : Toolchain) (c : DataClass) (snapshot : Snapshot) (kind : ArtifactKind) :
    List Event :=
  t.generator.generateEvents c kind ++
    match t.generator.generate c kind with
    | .error _ => []
    | .ok set =>
      let plan := planClass t.note set snapshot
      planClassEvents t.note set snapshot ++ applyEvents snapshot plan ++
        [⟨.info, .pipeline, "planned merge",
          [("class", .plain c.name), ("instructions", .count plan.instructions.length),
           ("members", .count (apply snapshot plan).members.length)]⟩]

/-- The error of a plan, which says for which class it was made. -/
def errorMessage (c : DataClass) (error : GenerateError) : String :=
  "generate artifacts for " ++ c.name ++ ": " ++ error.message

end Toolchain
end Boilerplate
