import ValueBuilder.Blueprint.Basic
import ValueBuilder.Blueprint.Factory
import ValueBuilder.Blueprint.Repeat
import ValueBuilder.Builder.Accessors.Collection
import ValueBuilder.Builder.Accessors.ListAccessors
import ValueBuilder.Builder.Accessors.MapAccessors
import ValueBuilder.Builder.Accessors.Optional
import ValueBuilder.Builder.Accessors.Plain
import ValueBuilder.Builder.Accessors.SetAccessors
import ValueBuilder.Builder.Building
import ValueBuilder.Builder.Header
import ValueBuilder.Builder.Layout
import ValueBuilder.Builder.Section
import ValueBuilder.Builder.Serializer
import ValueBuilder.Builder.Storage
import ValueBuilder.Builder.Values
import ValueBuilder.CommandLine.Basic
import ValueBuilder.CommandLine.Help
import ValueBuilder.CommandLine.Parser
import ValueBuilder.Console.Color
import ValueBuilder.Console.Palette
import ValueBuilder.Console.Table
import ValueBuilder.Declaration.Basic
import ValueBuilder.Declaration.Conversion
import ValueBuilder.Declaration.Decoder
import ValueBuilder.Generation.Basic
import ValueBuilder.Generation.Statistics
import ValueBuilder.Generation.Warning
import ValueBuilder.Java.ClassName
import ValueBuilder.Java.Identifier
import ValueBuilder.Java.JavaType
import ValueBuilder.Java.Library
import ValueBuilder.Java.Primitive
import ValueBuilder.Java.TypeScope
import ValueBuilder.Json.Decoder
import ValueBuilder.Json.Fault
import ValueBuilder.Json.Numeral
import ValueBuilder.Json.Record
import ValueBuilder.Json.Symbols
import ValueBuilder.Json.Text
import ValueBuilder.Main
import ValueBuilder.Number.Double
import ValueBuilder.Number.Shortest
import ValueBuilder.Proofs.Builder.AccessorTemplates
import ValueBuilder.Proofs.Builder.Emission
import ValueBuilder.Proofs.Builder.References
import ValueBuilder.Proofs.Builder.SectionTemplates
import ValueBuilder.Proofs.Builder.SilentAccessors
import ValueBuilder.Proofs.Builder.SilentSections
import ValueBuilder.Proofs.Builder.StreamFields
import ValueBuilder.Proofs.Builder.UnsetTracking
import ValueBuilder.Proofs.Generation.Accounts
import ValueBuilder.Proofs.Generation.Files
import ValueBuilder.Proofs.Generation.RawPaths
import ValueBuilder.Proofs.Java.ClassNames
import ValueBuilder.Proofs.Java.TypeGrammar
import ValueBuilder.Proofs.Java.TypeParsing
import ValueBuilder.Proofs.Java.TypePrinting
import ValueBuilder.Proofs.Java.TypeReading
import ValueBuilder.Proofs.Source.Chunks
import ValueBuilder.Proofs.Source.Lines
import ValueBuilder.Proofs.Source.NameOwners
import ValueBuilder.Proofs.Source.SilentLines
import ValueBuilder.Proofs.Source.Templates
import ValueBuilder.Proofs.Text.Parts
import ValueBuilder.Proofs.Text.Silence
import ValueBuilder.Proofs.Unicode.Disjoint
import ValueBuilder.Property.Basic
import ValueBuilder.Property.Naming
import ValueBuilder.Property.Strategy
import ValueBuilder.Reading
import ValueBuilder.Run.FileTree
import ValueBuilder.Run.Job
import ValueBuilder.Run.Outcome
import ValueBuilder.Run.Place
import ValueBuilder.Run.Script
import ValueBuilder.Source.Code
import ValueBuilder.Source.NameTable
import ValueBuilder.Source.Template
import ValueBuilder.Source.Unit
import ValueBuilder.Text.Digits
import ValueBuilder.Text.Quoted
import ValueBuilder.Text.Sorted
import ValueBuilder.Text.Split
import ValueBuilder.Unicode.Alphabetic
import ValueBuilder.Unicode.Blank
import ValueBuilder.Unicode.CodeRun
import ValueBuilder.Unicode.Columns
import ValueBuilder.Unicode.LetterCase
import ValueBuilder.Unicode.Visible
import ValueBuilder.UnknownName
import ValueBuilder.Proofs.Generation.Independence
import ValueBuilder.Proofs.Blueprint.Checks
import ValueBuilder.Proofs.Generation.Paths
import ValueBuilder.Proofs.Outcomes
import ValueBuilder.Proofs.Builder.JoinedText
import ValueBuilder.Proofs.Builder.NamedClasses
import ValueBuilder.Proofs.Declaration.ClassNames
import ValueBuilder.Proofs.Generation.Imports
import ValueBuilder.Proofs.Generation.LiteralNames
import ValueBuilder.Proofs.Generation.MemberNames
import ValueBuilder.Proofs.Generation.ClassLine
import ValueBuilder.Proofs.Declaration.PropertyNames
import ValueBuilder.Proofs.Source.Tokens
import ValueBuilder.Proofs.Builder.FieldNames
import ValueBuilder.Proofs.Builder.MethodSignatures
import ValueBuilder.Proofs.Builder.LocalNames
import ValueBuilder.Proofs.Java.UnqualifiedNames
import ValueBuilder.Proofs.Builder.WrittenUnits
import ValueBuilder.Proofs.Generation.Fragments
import ValueBuilder.Proofs.Generation.SourceLevels
import ValueBuilder.Proofs.Source.BracketedLines
import ValueBuilder.Proofs.Builder.BracketedAccessors
import ValueBuilder.Proofs.Builder.BracketedSections
import ValueBuilder.Proofs.Builder.PlainNames
import ValueBuilder.Proofs.Generation.BracketedClasses
import ValueBuilder.Proofs.Source.TemplateExpansion
import ValueBuilder.Proofs.Source.TemplateTokens
import ValueBuilder.Proofs.Source.PendingErrors
import ValueBuilder.Proofs.Source.FailedCalls
import ValueBuilder.Proofs.Json.Grammar
import ValueBuilder.Proofs.Json.Reading
import ValueBuilder.Proofs.Json.TextReading
import ValueBuilder.Proofs.Json.ValueReading
import ValueBuilder.Proofs.Json.RecordReading
import ValueBuilder.Proofs.Declaration.Encoding
import ValueBuilder.Proofs.Generation.Requests
import ValueBuilder.Proofs.Property.Binding
import ValueBuilder.Proofs.Property.GetterNames
import ValueBuilder.Proofs.Builder.Clearing
import ValueBuilder.Proofs.Builder.FreshNames
import ValueBuilder.Proofs.Builder.ClearTemplate
import ValueBuilder.Proofs.Blueprint.Faults
import ValueBuilder.Proofs.Run.Places
import ValueBuilder.Proofs.Generation.OutputPaths
import ValueBuilder.Proofs.Source.PackageLines
import ValueBuilder.Proofs.Unicode.Capitals
import ValueBuilder.Proofs.Builder.PackageLines
import ValueBuilder.Proofs.Declaration.PlainNames
import ValueBuilder.Proofs.Java.ByteScanner
import ValueBuilder.Proofs.Java.QualifiedNames
import ValueBuilder.Proofs.Java.ScanSteps
import ValueBuilder.Proofs.Java.TypeScanning
