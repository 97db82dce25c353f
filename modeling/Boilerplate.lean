import Boilerplate.Main
import Boilerplate.Session
import Boilerplate.Proofs.Merge.FixedPoint
import Boilerplate.Proofs.Merge.History
import Boilerplate.Proofs.Merge.Placement
import Boilerplate.Proofs.Merge.Conservation
import Boilerplate.Proofs.Merge.Stages
import Boilerplate.Proofs.Merge.Targets
import Boilerplate.Proofs.Merge.Replacement
import Boilerplate.Proofs.Merge.Increment
import Boilerplate.Proofs.Merge.Reformatting
import Boilerplate.Proofs.Identifier
import Boilerplate.Proofs.DataClass.Faults
import Boilerplate.Proofs.Merge.Values
import Boilerplate.Proofs.Merge.Changes
import Boilerplate.Proofs.JavaType.Reading
import Boilerplate.Proofs.Strategy.Resolution
import Boilerplate.Proofs.Parcel.InStep
import Boilerplate.Proofs.Generator.Spelling
import Boilerplate.Proofs.Schema.PrimaryKey
import Boilerplate.Proofs.Schema.Alignment
import Boilerplate.Proofs.Schema.Shadowing
import Boilerplate.Proofs.Document.Reload
import Boilerplate.Proofs.Strategy.Precedence
import Boilerplate.Proofs.Strategy.Registration
import Boilerplate.Proofs.CommandLine.Footprint
import Boilerplate.Proofs.CommandLine.Outcome
import Boilerplate.Proofs.Config
import Boilerplate.Proofs.DataClass.CamelCase
import Boilerplate.Proofs.Parcel.Temporaries
import Boilerplate.Proofs.Schema.Storage
import Boilerplate.Proofs.Text.JavaCode
import Boilerplate.Proofs.Merge.Notes
import Boilerplate.Proofs.Session
