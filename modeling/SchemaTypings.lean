import SchemaTypings.Main
import SchemaTypings.Workspace.Tree
import SchemaTypings.Proofs.Command.Generate
import SchemaTypings.Proofs.Command.Refinement
import SchemaTypings.Proofs.Command.Session
import SchemaTypings.Proofs.Config.Faults
import SchemaTypings.Proofs.Config.Overrides
import SchemaTypings.Proofs.Config.SavedText
import SchemaTypings.Proofs.Config.TextMapping
import SchemaTypings.Proofs.Entries
import SchemaTypings.Proofs.Json.Strings
import SchemaTypings.Proofs.Schema.WellFormed
import SchemaTypings.Proofs.Sdl.Decorated
import SchemaTypings.Proofs.Sdl.Grammar
import SchemaTypings.Proofs.Sdl.JoinedParse
import SchemaTypings.Proofs.Sdl.JoinedTokens
import SchemaTypings.Proofs.Sdl.Literal
import SchemaTypings.Proofs.Sdl.Name
import SchemaTypings.Proofs.Sdl.ParsedDefinition
import SchemaTypings.Proofs.Sdl.Reread
import SchemaTypings.Proofs.Sdl.RoundTrip
import SchemaTypings.Proofs.Sdl.Rule
import SchemaTypings.Proofs.Sdl.UnifiedParse
import SchemaTypings.Proofs.Sdl.UnifiedTokens
import SchemaTypings.Proofs.Sdl.Written
import SchemaTypings.Proofs.Sdl.Yields
import SchemaTypings.Proofs.Text.Hexadecimal
import SchemaTypings.Proofs.Text.LineEnd
import SchemaTypings.Proofs.Text.Span
import SchemaTypings.Proofs.Typings.Module
import SchemaTypings.Proofs.Typings.TypeText
import SchemaTypings.Proofs.Typings.Unambiguous
import SchemaTypings.Proofs.Workspace.ConfigFile
import SchemaTypings.Proofs.Workspace.Decoration
import SchemaTypings.Proofs.Workspace.Directories
import SchemaTypings.Proofs.Workspace.Frame
import SchemaTypings.Proofs.Workspace.Generation
import SchemaTypings.Proofs.Workspace.JoinedText
import SchemaTypings.Proofs.Workspace.Outcome
import SchemaTypings.Proofs.Workspace.Path
import SchemaTypings.Proofs.Workspace.SameModule
import SchemaTypings.Proofs.Workspace.SavedSettings
import SchemaTypings.Proofs.Workspace.SchemaFile
import SchemaTypings.Proofs.Workspace.ShownPath
import SchemaTypings.Proofs.Workspace.Tree
import SchemaTypings.Proofs.Workspace.Work
import SchemaTypings.Proofs.Yaml.Ascii
import SchemaTypings.Proofs.Yaml.DoubleQuoted
import SchemaTypings.Proofs.Yaml.Mapping
import SchemaTypings.Proofs.Yaml.Plain
import SchemaTypings.Proofs.Yaml.Quoted
import SchemaTypings.Proofs.Yaml.Scan
import SchemaTypings.Proofs.Yaml.SingleQuoted
import SchemaTypings.Proofs.Typings.Shape
import SchemaTypings.Proofs.Workspace.ModuleShape
import SchemaTypings.Proofs.Typings.ExportedNames
import SchemaTypings.Proofs.Workspace.ExportedNames
import SchemaTypings.Proofs.Json.RoundTrip
import SchemaTypings.Proofs.Config.Published
import SchemaTypings.Proofs.Command.Publish
import SchemaTypings.Proofs.Text.Charset
import SchemaTypings.Proofs.Workspace.PortableSettings
import SchemaTypings.Proofs.FirstFault
import SchemaTypings.Proofs.Typings.TypePosition
import SchemaTypings.Proofs.Typings.Emission
import SchemaTypings.Proofs.Text.Occurrence
import SchemaTypings.Proofs.Typings.Wrapping
import SchemaTypings.Proofs.Workspace.Wrapping
import SchemaTypings.Proofs.Config.Validation
import SchemaTypings.Proofs.Typings.Preamble
import SchemaTypings.Proofs.Typings.TypeLayers
import SchemaTypings.Proofs.Workspace.Regeneration
