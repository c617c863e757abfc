import ApiModel.Api.Basic
import ApiModel.Api.Read
import ApiModel.Compile.Build
import ApiModel.Compile.Direct
import ApiModel.Compile.Error
import ApiModel.Compile.Filter
import ApiModel.Compile.Lowering
import ApiModel.Compile.Members
import ApiModel.Compile.Operation
import ApiModel.Compile.Primitive
import ApiModel.Compile.Progress
import ApiModel.Container.OrderedMap
import ApiModel.Container.Sort
import ApiModel.Container.TextSet
import ApiModel.Container.Traced
import ApiModel.Document.Access
import ApiModel.Document.Calendar
import ApiModel.Document.Display
import ApiModel.Document.Error
import ApiModel.Document.Location
import ApiModel.Document.Loop
import ApiModel.Document.Parse
import ApiModel.Document.Pointer
import ApiModel.Document.Resolution
import ApiModel.Document.Value
import ApiModel.Host.Access
import ApiModel.Host.Basic
import ApiModel.Host.Disk
import ApiModel.Host.Memory
import ApiModel.Host.Path
import ApiModel.Http.Address
import ApiModel.Http.Answer
import ApiModel.Http.Header
import ApiModel.Http.HostName
import ApiModel.Http.HostTable
import ApiModel.Http.Inflate
import ApiModel.Http.Internet
import ApiModel.Json.Error
import ApiModel.Json.Reader
import ApiModel.Json.Writer
import ApiModel.Main
import ApiModel.Model.Constraint
import ApiModel.Model.EmittedName
import ApiModel.Model.Field
import ApiModel.Model.Naming
import ApiModel.Model.Operation
import ApiModel.Model.Override
import ApiModel.Model.Read
import ApiModel.Model.Registry
import ApiModel.Model.Service
import ApiModel.Model.Structure
import ApiModel.Model.Write
import ApiModel.Notice
import ApiModel.Number.Binary
import ApiModel.Number.Decimal
import ApiModel.Number.Notation
import ApiModel.Number.Reading
import ApiModel.Number.Shortest
import ApiModel.Program.Arguments
import ApiModel.Program.Commands
import ApiModel.Program.Directories
import ApiModel.Program.Failure
import ApiModel.Program.Files
import ApiModel.Program.Screen
import ApiModel.Program.Settings
import ApiModel.Program.Source
import ApiModel.Program.Tables
import ApiModel.Schema.Attributes
import ApiModel.Schema.Basic
import ApiModel.Schema.Node
import ApiModel.Schema.Read
import ApiModel.Text.Basic
import ApiModel.Text.Blank
import ApiModel.Text.Case
import ApiModel.Text.CaseTable
import ApiModel.Text.CasedTable
import ApiModel.Text.Charset
import ApiModel.Text.CodePage
import ApiModel.Text.CodePoint
import ApiModel.Text.Digit
import ApiModel.Text.Encoding
import ApiModel.Text.Markup
import ApiModel.Text.NameTable
import ApiModel.Text.Printable
import ApiModel.Text.Punycode
import ApiModel.Text.Segment
import ApiModel.Text.Template
import ApiModel.Validation.Bound
import ApiModel.Validation.Fault
import ApiModel.Validation.Record
import ApiModel.Validation.Scalar
import ApiModel.Yaml.Content
import ApiModel.Yaml.Cursor
import ApiModel.Yaml.Fault
import ApiModel.Yaml.Merge
import ApiModel.Yaml.Node
import ApiModel.Yaml.Object
import ApiModel.Yaml.Reader
import ApiModel.Yaml.Resolution
import ApiModel.Yaml.Scalar
import ApiModel.Yaml.Token
import ApiModel.Proofs.OrderedMap
import ApiModel.Proofs.Order
import ApiModel.Proofs.Positions
import ApiModel.Proofs.Lowering
import ApiModel.Proofs.DirectLowering
import ApiModel.Proofs.Steps
import ApiModel.Proofs.Effects
import ApiModel.Proofs.Registry
import ApiModel.Proofs.Representation
import ApiModel.Proofs.Run
import ApiModel.Proofs.NameRoots
import ApiModel.Proofs.Closure
import ApiModel.Proofs.Components
import ApiModel.Proofs.Soundness
import ApiModel.Proofs.Decomposition
import ApiModel.Proofs.Model
import ApiModel.Proofs.Bounds
import ApiModel.Proofs.Sameness
import ApiModel.Proofs.Commit
import ApiModel.Proofs.Interference
import ApiModel.Proofs.EmittedName
import ApiModel.Proofs.Abreast
import ApiModel.Proofs.Deletion
import ApiModel.Proofs.Resolution
import ApiModel.Proofs.Rearrangement
import ApiModel.Proofs.ComponentOrder
import ApiModel.Proofs.SchemaPointers
import ApiModel.Proofs.SchemaReading
import ApiModel.Proofs.KeyOrder
import ApiModel.Proofs.KeyOrderReading
import ApiModel.Proofs.KeyOrderOutcome
import ApiModel.Proofs.SchemaPlaces
import ApiModel.Proofs.DialectConversion
import ApiModel.Proofs.DialectAgreement
import ApiModel.Proofs.Leftovers
import ApiModel.Proofs.SchemaNames
import ApiModel.Proofs.NamedSchemas
import ApiModel.Proofs.OperationTypes
import ApiModel.Proofs.JsonScalars
import ApiModel.Proofs.JsonRoundTrip
import ApiModel.Proofs.WrittenModel
import ApiModel.Proofs.Merging
import ApiModel.Proofs.UnionExpansion
import ApiModel.Proofs.InputLocations
import ApiModel.Proofs.Classification
import ApiModel.Proofs.FileSteps
import ApiModel.Proofs.AtomicOutput
import ApiModel.Proofs.Refusal
import ApiModel.Proofs.SupportedSchemas
import ApiModel.Proofs.ScratchLowering
import ApiModel.Proofs.BodyNames
import ApiModel.Proofs.OutputMembers
import ApiModel.Proofs.ParameterOrder
import ApiModel.Proofs.NameCollisions
import ApiModel.Proofs.CommittedTypes
import ApiModel.Proofs.Places
import ApiModel.Proofs.PartNames
import ApiModel.Proofs.Unfolding
import ApiModel.Proofs.DeclaredMembers
import ApiModel.Proofs.WrittenBounds
import ApiModel.Proofs.MergeContract
import ApiModel.Proofs.PointerNames
import ApiModel.Proofs.SchemaOrigins
import ApiModel.Proofs.SchemaNodes
import ApiModel.Proofs.SchemaKinds
import ApiModel.Proofs.RepeatedResolution
import ApiModel.Proofs.IgnorePatterns
import ApiModel.Proofs.PatternAlternatives
