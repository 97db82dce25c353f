import Boilerplate.Merge.Layout
import Boilerplate.Proofs.CommandLine.Stored
import Boilerplate.Proofs.Document.PlanRestore

/-! Saved state. What a session writes down it finds again unchanged, so a plan that was saved does to
a saved class what it did to the class itself. -/
namespace Boilerplate
open Merge CommandLine

/-- A value is read from its own document, and from the text of it in either form. -/
structure Reloads {α : Type} (write : α → Document) (read : Document → Option α) (value : α) :
    Prop where
  document : read (write value) = some value
  pretty : (Json.read? (Json.pretty 0 (write value))).bind read = some value
  compact : (Json.read? (Json.compact (write value))).bind read = some value

theorem reloads_of_writable {α : Type} {write : α → Document} {read : Document → Option α} {value : α}
    (writable : Json.Writable Json.maxDepth (write value)) (restored : read (write value) = some value) :
    Reloads write read value where
  document := restored
  pretty := by rw [Json.read?_pretty writable, Option.bind_some, restored]
  compact := by rw [Json.read?_compact writable, Option.bind_some, restored]

/-- Everything that is saved is loaded as it was: each kind of value by itself, a snapshot from the
file that a command wrote, and a plan with the same effect on the class. -/
theorem saved_state_reloads :
    (∀ snapshot, Reloads Snapshot.toDocument Snapshot.ofDocument? snapshot) ∧
    (∀ plan : EditPlan, plan.Indexed → Reloads EditPlan.toDocument EditPlan.ofDocument? plan) ∧
    (∀ plan : ConstantPlan, plan.Indexed →
      Reloads ConstantPlan.toDocument ConstantPlan.ofDocument? plan) ∧
    (∀ c, Reloads DataClass.toDocument DataClass.ofDocument? c) ∧
    (∀ constant, Reloads Constant.toDocument Constant.ofDocument? constant) ∧
    (∀ options, Reloads Options.toDocument Options.ofDocument? options) ∧
    (∀ registry, Reloads Registry.toDocument Registry.ofDocument? registry) ∧
    (∀ maySurpass config, Reloads Config.toDocument (Config.ofDocument? maySurpass) config) ∧
    (∀ (s : Setup) span path (snapshot : Snapshot) failure world after,
      (Attempt.writeFile failure path snapshot.save).runIn world = (after, .ok ()) →
      ((readSnapshot s span (some path)).runIn after).2 = .ok snapshot) ∧
    ∀ snapshot plan, plan.Indexed → ∃ loaded reloaded,
      Snapshot.load? snapshot.save = some loaded ∧
      (Json.read? (Json.pretty 0 plan.toDocument)).bind EditPlan.ofDocument? = some reloaded ∧
      apply loaded reloaded = apply snapshot plan := by
  have plans {plan : EditPlan} (indexed : plan.Indexed) :
      Reloads EditPlan.toDocument EditPlan.ofDocument? plan :=
    reloads_of_writable (EditPlan.writable indexed) (EditPlan.ofDocument?_toDocument indexed)
  refine ⟨?_, fun plan => plans, ?_, ?_, ?_, ?_, ?_, ?_, ?_, ?_⟩
  · exact fun snapshot => reloads_of_writable snapshot.writable snapshot.ofDocument?_toDocument
  · exact fun plan indexed => reloads_of_writable (ConstantPlan.writable indexed)
      (ConstantPlan.ofDocument?_toDocument indexed)
  · exact fun c => reloads_of_writable c.writable c.ofDocument?_toDocument
  · exact fun constant => reloads_of_writable constant.writable constant.ofDocument?_toDocument
  · exact fun options => reloads_of_writable options.writable options.ofDocument?_toDocument
  · exact fun registry => reloads_of_writable registry.writable registry.ofDocument?_toDocument
  · exact fun maySurpass config =>
      reloads_of_writable config.writable (config.ofDocument?_toDocument maySurpass)
  · exact fun s span _ _ _ _ _ written => readSnapshot_writeFile s span written
  · exact fun snapshot plan indexed =>
      ⟨snapshot, plan, snapshot.load?_save, (plans indexed).pretty, rfl⟩

/-- A plan with each kind of instruction and of anchor. -/
def Merge.EditPlan.mixed : EditPlan :=
  ⟨[.remove (.field "CREATOR"),
    .insert ⟨.afterExisting (.method "Point" ["int", "long[]"]) 1, .field "TABLE", "String TABLE;",
      some "\"points\"", true⟩,
    .insert ⟨.afterPlanned (Nat.pow 2 64 - 1), .method "Point" [], "Point() \x7b\x7d", none, false⟩,
    .insert ⟨.endOfClass, .method "toString" [], "", none, false⟩,
    .implementInterface "android.os.Parcelable"],
   [⟨"TABLE", .conflicting⟩]⟩

theorem Merge.EditPlan.mixed_indexed : mixed.Indexed := by decide

/-- What the plan is for. -/
def Snapshot.parcel : Snapshot :=
  ⟨[.field ⟨"CREATOR", none, some "Creator CREATOR;"⟩, .method ⟨"Point", ["int", "long[]"], none⟩,
    .method ⟨"Point", ["int", "long[]"], none⟩], ["java.io.Serializable"]⟩

/-- A world with nothing in it but the file of that snapshot. -/
def CommandLine.World.parcel : World := ⟨⟨[(["point.json"], Snapshot.parcel.save)]⟩, "", ""⟩

theorem CommandLine.World.parcel_written :
    (Attempt.writeFile (.unwritable .classSnapshot "point.json") "point.json"
      Snapshot.parcel.save).runIn ⟨⟨[]⟩, "", ""⟩ = (parcel, .ok ()) := by rfl

theorem saved_state_reloads_mixed : EditPlan.mixed.Indexed ∧
    Reloads EditPlan.toDocument EditPlan.ofDocument? .mixed ∧
    ((readSnapshot ⟨.standard, ⟨[], .compact, some "log.txt"⟩⟩ ⟨"plan", "Point"⟩
      (some "point.json")).runIn .parcel).2 = .ok .parcel ∧
    ∃ loaded reloaded, Snapshot.load? Snapshot.parcel.save = some loaded ∧
      (Json.read? (Json.pretty 0 EditPlan.mixed.toDocument)).bind EditPlan.ofDocument? =
        some reloaded ∧
      apply loaded reloaded = apply .parcel .mixed := by
  obtain ⟨_, plans, _, _, _, _, _, _, stored, applied⟩ := saved_state_reloads
  exact ⟨EditPlan.mixed_indexed, plans _ EditPlan.mixed_indexed,
    stored _ _ _ _ _ _ _ World.parcel_written, applied _ _ EditPlan.mixed_indexed⟩

end Boilerplate
