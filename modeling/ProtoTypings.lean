import ProtoTypings.Text.Blank
import ProtoTypings.Text.Capitals
import ProtoTypings.Text.Case
import ProtoTypings.Module.Path
import ProtoTypings.Module.WellKnown
import ProtoTypings.Module.Alias
import ProtoTypings.Wire.Fault
import ProtoTypings.Failure
import ProtoTypings.Layout.Printer
import ProtoTypings.Schema.Descriptor
import ProtoTypings.Run.Options
import ProtoTypings.Plugin.Parameter
import ProtoTypings.Typing.Scalar
import ProtoTypings.Symbol.Table
import ProtoTypings.Symbol.ExportMap
import ProtoTypings.Typing.TypeExpr
import ProtoTypings.Typing.Scope
import ProtoTypings.Emit.Enum
import ProtoTypings.Emit.Extension
import ProtoTypings.Emit.Message
import ProtoTypings.Emit.Service
import ProtoTypings.Emit.Imports
import ProtoTypings.Emit.Artifact
import ProtoTypings.Run.Generate
import ProtoTypings.Run.Manifest
import ProtoTypings.Wire.Varint
import ProtoTypings.Wire.Value
import ProtoTypings.Wire.Layout
import ProtoTypings.Wire.Reader
import ProtoTypings.Wire.Writer
import ProtoTypings.Wire.Descriptor
import ProtoTypings.Plugin.Exchange
import ProtoTypings.Plugin.Encoding
import ProtoTypings.Cli.FileSystem
import ProtoTypings.Cli.Workspace
import ProtoTypings.Cli.Args
import ProtoTypings.Cli.Run
import ProtoTypings.Main
import ProtoTypings.Proofs.Layout
import ProtoTypings.Proofs.ImportSet
import ProtoTypings.Proofs.Aliases
import ProtoTypings.Proofs.Symbols
import ProtoTypings.Proofs.ImportSection
import ProtoTypings.Proofs.Generation
import ProtoTypings.Proofs.Simulation
import ProtoTypings.Proofs.DescriptorSets
import ProtoTypings.Proofs.ArtifactNames
import ProtoTypings.Proofs.PluginExchange
import ProtoTypings.Proofs.AliasTable
import ProtoTypings.Proofs.SymbolWalk
import ProtoTypings.Proofs.Resolution
import ProtoTypings.Proofs.LineView
import ProtoTypings.Proofs.Words
import ProtoTypings.Proofs.DeclarationLines
import ProtoTypings.Proofs.Outline
import ProtoTypings.Proofs.ParameterGrammar
import ProtoTypings.Proofs.ImportPaths
import ProtoTypings.Proofs.TypingRequests
import ProtoTypings.Proofs.LineCensus
import ProtoTypings.Proofs.DeclarationCensus
import ProtoTypings.Proofs.RunCensus
import ProtoTypings.Proofs.PrinterLaw
import ProtoTypings.Proofs.Nesting
import ProtoTypings.Proofs.DeclaredTypes
import ProtoTypings.Proofs.References
import ProtoTypings.Proofs.CamelCase
import ProtoTypings.Proofs.AliasDerivation
