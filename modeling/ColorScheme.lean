import ColorScheme.Main
import ColorScheme.Token.Catalogue
import ColorScheme.Proofs.SourceRoundTrip
import ColorScheme.Proofs.References
import ColorScheme.Proofs.LineNumbers
import ColorScheme.Proofs.Merging
import ColorScheme.Proofs.TokenNames
import ColorScheme.Proofs.WrittenSections
import ColorScheme.Proofs.WrittenStyles
import ColorScheme.Proofs.DefinitionRoundTrip
import ColorScheme.Proofs.SectionNames
import ColorScheme.Proofs.Resolution
import ColorScheme.Proofs.StyleLook
import ColorScheme.Proofs.ScriptCommands
import ColorScheme.Proofs.ScriptDifferences
import ColorScheme.Proofs.DefinitionNormalForm
import ColorScheme.Proofs.EscapedValues
import ColorScheme.Proofs.SchemeRuns
import ColorScheme.Proofs.ModuleLines
import ColorScheme.Proofs.ModuleReading
import ColorScheme.Proofs.SectionSpellings
import ColorScheme.Proofs.HeaderNames
import ColorScheme.Proofs.SectionStyles
import ColorScheme.Proofs.OptionFrames
import ColorScheme.Proofs.UnusedOptions
import ColorScheme.Proofs.Renumbering
import ColorScheme.Proofs.SectionOrder
import ColorScheme.Proofs.OptionOrder
import ColorScheme.Proofs.BuiltinFormats
import ColorScheme.Proofs.CommandRuns
import ColorScheme.Proofs.StyleComposition
import ColorScheme.Proofs.Substitution
import ColorScheme.Proofs.Layout
import ColorScheme.Proofs.FaultLines
import ColorScheme.Proofs.NearestStyles
import ColorScheme.Proofs.SourceReading
import ColorScheme.Proofs.ScriptNames
import ColorScheme.Proofs.WrittenOrder
import ColorScheme.Proofs.PreviewRows
import ColorScheme.Proofs.ShortNames
import ColorScheme.Proofs.StandardTokens
