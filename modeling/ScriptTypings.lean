import ScriptTypings.Cli.Arguments
import ScriptTypings.Cli.Elapsed
import ScriptTypings.Cli.Help
import ScriptTypings.Cli.LogFilter
import ScriptTypings.Cli.Run
import ScriptTypings.Declaration.Basic
import ScriptTypings.Declaration.Literal
import ScriptTypings.Declaration.Mapping
import ScriptTypings.Declaration.Printer
import ScriptTypings.Document
import ScriptTypings.Event
import ScriptTypings.Extraction
import ScriptTypings.Failure
import ScriptTypings.File.Discovery
import ScriptTypings.File.Disk
import ScriptTypings.File.Path
import ScriptTypings.File.Tree
import ScriptTypings.Grammar.Automaton
import ScriptTypings.Grammar.Rule
import ScriptTypings.Identifier
import ScriptTypings.Main
import ScriptTypings.Node.Basic
import ScriptTypings.Node.Fact
import ScriptTypings.Node.Kind
import ScriptTypings.Pattern.Basic
import ScriptTypings.Pattern.CharClass
import ScriptTypings.Pattern.Cursor
import ScriptTypings.Pattern.Escape
import ScriptTypings.Pattern.Flaw
import ScriptTypings.Pattern.Parser
import ScriptTypings.Pattern.Size
import ScriptTypings.Proofs.AddedScript
import ScriptTypings.Proofs.CanonicalPath
import ScriptTypings.Proofs.ClassRecord
import ScriptTypings.Proofs.CommentEffect
import ScriptTypings.Proofs.CommentedTree
import ScriptTypings.Proofs.Contribution
import ScriptTypings.Proofs.DebugView
import ScriptTypings.Proofs.DeclarationOrder
import ScriptTypings.Proofs.Discovery
import ScriptTypings.Proofs.DiskGrowth
import ScriptTypings.Proofs.DiskWalk
import ScriptTypings.Proofs.ExcludedName
import ScriptTypings.Proofs.ExportMark
import ScriptTypings.Proofs.ExtractionLog
import ScriptTypings.Proofs.FactListing
import ScriptTypings.Proofs.FileTree
import ScriptTypings.Proofs.InterfaceName
import ScriptTypings.Proofs.JoinedPath
import ScriptTypings.Proofs.KeyedSort
import ScriptTypings.Proofs.MappedFile
import ScriptTypings.Proofs.MappedType
import ScriptTypings.Proofs.MergedRecord
import ScriptTypings.Proofs.ParameterName
import ScriptTypings.Proofs.Place
import ScriptTypings.Proofs.PrintedText
import ScriptTypings.Proofs.RedactedTree
import ScriptTypings.Proofs.Regeneration
import ScriptTypings.Proofs.RegularFiles
import ScriptTypings.Proofs.RepeatedName
import ScriptTypings.Proofs.ResourceKey
import ScriptTypings.Proofs.RunEffects
import ScriptTypings.Proofs.SanitizedName
import ScriptTypings.Proofs.SaveSequence
import ScriptTypings.Proofs.SavedFile
import ScriptTypings.Proofs.ScanPartition
import ScriptTypings.Proofs.Signature
import ScriptTypings.Proofs.StringLiteral
import ScriptTypings.Proofs.TreeSkeleton
import ScriptTypings.Proofs.TrimmedText
import ScriptTypings.Proofs.UnifiedBreaks
import ScriptTypings.Proofs.WrittenArguments
import ScriptTypings.Proofs.WrittenType
import ScriptTypings.Record
import ScriptTypings.ResourcePath
import ScriptTypings.Scan
import ScriptTypings.Script.Grammar
import ScriptTypings.Script.Layout
import ScriptTypings.Script.Parser
import ScriptTypings.Script.Shape
import ScriptTypings.Script.Token
import ScriptTypings.Text.Blank
import ScriptTypings.Text.Hexadecimal
import ScriptTypings.Text.LineBreaks
import ScriptTypings.Text.Pieces
import ScriptTypings.Text.Quoted
import ScriptTypings.Text.Terminal
import ScriptTypings.Text.Unprintable
import ScriptTypings.Text.Word
import ScriptTypings.TypeRef
