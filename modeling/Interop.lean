import Interop.Binding.Generate
import Interop.Binding.Index
import Interop.Binding.Run
import Interop.Codec.Answer
import Interop.Codec.Managed
import Interop.Codec.Native
import Interop.Codec.Report
import Interop.Codec.Settings
import Interop.CommandLine.Arguments
import Interop.CommandLine.Load
import Interop.CommandLine.Parse
import Interop.Config.Settings
import Interop.Config.Validation
import Interop.Files.Path
import Interop.Files.Tree
import Interop.Identifier
import Interop.Json.Decode
import Interop.Json.Text
import Interop.Json.Value
import Interop.Lowering.Enumeration
import Interop.Lowering.Function
import Interop.Lowering.Layout
import Interop.Lowering.Members
import Interop.Lowering.Record
import Interop.Lowering.Typedef
import Interop.Main
import Interop.Managed.Primitive
import Interop.Managed.Symbol
import Interop.Managed.Type
import Interop.Mapping.Error
import Interop.Mapping.Parameters
import Interop.Mapping.Position
import Interop.Mapping.Types
import Interop.NameSet
import Interop.Naming
import Interop.Native.Canonical
import Interop.Native.Declaration
import Interop.Native.Type
import Interop.Native.Unit
import Interop.Proofs.Binding.Answers
import Interop.Proofs.Binding.Claims
import Interop.Proofs.Binding.Containment
import Interop.Proofs.Binding.Depth
import Interop.Proofs.Binding.Growth
import Interop.Proofs.Binding.Names
import Interop.Proofs.Binding.Occurrences
import Interop.Proofs.Binding.Overlap
import Interop.Proofs.Binding.References
import Interop.Proofs.Binding.Repetition
import Interop.Proofs.Binding.Runs
import Interop.Proofs.Binding.Settling
import Interop.Proofs.Binding.Steps
import Interop.Proofs.Lowering.Groups
import Interop.Proofs.Lowering.Growth
import Interop.Proofs.Lowering.Names
import Interop.Proofs.Lowering.Records
import Interop.Proofs.Lowering.Simple
import Interop.Proofs.Managed.Exposure
import Interop.Proofs.Mapping.Embedding
import Interop.Proofs.Mapping.Growth
import Interop.Proofs.Mapping.References
import Interop.Proofs.Mapping.Rules
import Interop.Proofs.Native.Parts
import Interop.Proofs.Outcome
import Interop.Registry
import Interop.Report.Log
import Interop.Report.Progress
import Interop.Report.Summary
import Interop.Run.Error
import Interop.Run.FrontEnd
import Interop.Run.Pipeline
import Interop.Source.CompilationUnit
import Interop.Source.Fragment
import Interop.Source.TypeName
import Interop.Text.Blank
import Interop.Text.Case
import Interop.Text.Lines
import Interop.Text.Lower
import Interop.Text.Quoted
import Interop.Text.Split
import Interop.Proofs.Lowering.Omission
import Interop.Proofs.Binding.Failures
import Interop.Proofs.Binding.Functions
import Interop.Proofs.Binding.Order
import Interop.Proofs.Json.Members
import Interop.Proofs.Codec.Native
import Interop.Proofs.Codec.Managed
import Interop.Proofs.CommandLine.Precedence
import Interop.Proofs.Files.Writing
import Interop.Proofs.Run.Outcomes
import Interop.Proofs.Source.Pieces
import Interop.Proofs.Source.Names
import Interop.Proofs.Lowering.Identifiers
import Interop.Proofs.Binding.Identifiers
import Interop.Proofs.Lowering.Placement
import Interop.Proofs.Native.Canonical
import Interop.Proofs.Native.Walking
import Interop.Proofs.Lowering.UnionSize
import Interop.Proofs.Mapping.Transparency
import Interop.Proofs.Mapping.Shapes
import Interop.Proofs.Mapping.Sizes
import Interop.Proofs.Mapping.Decay
import Interop.Proofs.Lowering.FlexibleArrays
import Interop.Proofs.Mapping.ParameterNames
import Interop.Proofs.Lowering.EnumValues
import Interop.Proofs.Lowering.UnionMembers
import Interop.Proofs.Binding.MemberNames
import Interop.Proofs.Lowering.Hoisting
import Interop.Proofs.Native.Contexts
import Interop.Proofs.Codec.Settings
import Interop.Proofs.Config.Validation
import Interop.Proofs.Native.Typedefs
import Interop.Proofs.Text.LineEnds
import Interop.Proofs.Text.Occurrence
import Interop.Proofs.Text.Literals
import Interop.Proofs.Source.Assembly
import Interop.Proofs.Binding.Imports
