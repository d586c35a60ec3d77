import EntityGen.Artifact
import EntityGen.Command.Arguments
import EntityGen.Command.Session
import EntityGen.Command.TypeTable
import EntityGen.Config
import EntityGen.Config.Document
import EntityGen.Config.Load
import EntityGen.Document.Json
import EntityGen.Document.Json.Text
import EntityGen.Document.Json.Writer
import EntityGen.Document.Problem
import EntityGen.Document.Reading
import EntityGen.Document.Record
import EntityGen.Document.Yaml.Cursor
import EntityGen.Document.Yaml.Event
import EntityGen.Document.Yaml.Node
import EntityGen.Document.Yaml.Plain
import EntityGen.Document.Yaml.Scalar
import EntityGen.Document.Yaml.Tag
import EntityGen.Document.Yaml.Token
import EntityGen.Emission
import EntityGen.Entity
import EntityGen.Entity.Source
import EntityGen.Fault
import EntityGen.FileAccess
import EntityGen.FileTree
import EntityGen.Identifier
import EntityGen.Instant
import EntityGen.JavaType
import EntityGen.Kind
import EntityGen.Kind.TypeCode
import EntityGen.Main
import EntityGen.Number.Binary64
import EntityGen.Number.Power
import EntityGen.Number.Shortest
import EntityGen.Options
import EntityGen.Path
import EntityGen.Plan
import EntityGen.Proofs.Emission.Artifacts
import EntityGen.Proofs.Emission.Directory
import EntityGen.Proofs.Emission.Execution
import EntityGen.Proofs.Emission.NoOverwrite
import EntityGen.Proofs.Entity.ClassFile
import EntityGen.Proofs.FileTree.Writing
import EntityGen.Proofs.Identifier.Characters
import EntityGen.Proofs.Path.Components
import EntityGen.Proofs.Path.Order
import EntityGen.Proofs.Plan.Jobs
import EntityGen.Proofs.Run.Accounting
import EntityGen.Proofs.Run.Course
import EntityGen.Proofs.Run.OnCourse
import EntityGen.Proofs.Run.Refinement
import EntityGen.Proofs.Run.Steps
import EntityGen.Proofs.Schema.Acceptance
import EntityGen.Proofs.Schema.Walk
import EntityGen.Proofs.Text.Casing
import EntityGen.Report
import EntityGen.Run
import EntityGen.Run.Pool
import EntityGen.Schema
import EntityGen.Schema.Document
import EntityGen.Schema.Load
import EntityGen.Schema.Violation
import EntityGen.Settings
import EntityGen.Sink
import EntityGen.Text.Casing
import EntityGen.Text.Casing.Table
import EntityGen.Text.Class
import EntityGen.Text.Class.Table
import EntityGen.Text.Quoted
import EntityGen.Proofs.Run.OneWorker
import EntityGen.Proofs.Schema.Reordering
import EntityGen.Proofs.Run.Cancellation
import EntityGen.Proofs.Plan.Claims
import EntityGen.Proofs.Document.JsonNode
import EntityGen.Proofs.Document.JsonWriter
import EntityGen.Proofs.Run.Isolation
import EntityGen.Proofs.Document.Record
import EntityGen.Proofs.Schema.RoundTrip
import EntityGen.Proofs.Text.Order
import EntityGen.Proofs.Report.Sorting
import EntityGen.Proofs.Report.Calls
import EntityGen.Proofs.Identifier.Folded
import EntityGen.Proofs.Schema.Insertion
import EntityGen.Proofs.Plan.Collision
import EntityGen.Proofs.Text.CodeSet
import EntityGen.Proofs.Text.CaseForms
import EntityGen.Proofs.Identifier.Idempotence
import EntityGen.Proofs.Plan.Lookup
import EntityGen.Proofs.Run.Underway
import EntityGen.Proofs.Entity.Literal
import EntityGen.Proofs.Entity.Lines
import EntityGen.Proofs.Entity.ClassLines
import EntityGen.Proofs.Entity.Generators
import EntityGen.Proofs.Run.Sequences
import EntityGen.Proofs.Command.Agreement
import EntityGen.Proofs.Plan.Description
import EntityGen.Proofs.Emission.AllOrNothing
import EntityGen.Proofs.Identifier.Legality
import EntityGen.Proofs.Identifier.Spelling
import EntityGen.Proofs.Identifier.Coherence
import EntityGen.Proofs.Entity.Comment
import EntityGen.Proofs.Entity.Regions
import EntityGen.Proofs.Entity.Imports
import EntityGen.Proofs.Entity.Usage
import EntityGen.Proofs.Entity.ExactImports
import EntityGen.Proofs.Entity.Toggles
import EntityGen.Proofs.Identifier.Property
import EntityGen.Proofs.Entity.Names
import EntityGen.Proofs.Entity.Members
import EntityGen.Proofs.Config.Package
import EntityGen.Proofs.Entity.Location
import EntityGen.Proofs.Identifier.Escaping
import EntityGen.Proofs.Document.Noting
import EntityGen.Proofs.Document.Parts
import EntityGen.Proofs.Schema.UnknownTypes
