import Facetry.Analysis
import Facetry.Analysis.Editing
import Facetry.Analysis.Nature
import Facetry.Analysis.Presentation
import Facetry.Analysis.Rules
import Facetry.Analysis.Suggestions
import Facetry.Analysis.Title
import Facetry.Analysis.Visibility
import Facetry.Annotation
import Facetry.Cache
import Facetry.Class
import Facetry.Class.Json
import Facetry.CommandLine
import Facetry.CommandLine.Arguments
import Facetry.Configuration
import Facetry.Decimal
import Facetry.Decimal.Binary64
import Facetry.Digest
import Facetry.Facet
import Facetry.Facet.Data
import Facetry.Facet.Kind
import Facetry.Factory
import Facetry.Failure
import Facetry.Feature
import Facetry.Files
import Facetry.Files.Tree
import Facetry.Identifier
import Facetry.Introspection
import Facetry.Json
import Facetry.Json.Reader
import Facetry.Json.Record
import Facetry.Json.Writer
import Facetry.Loader
import Facetry.Loader.Scope
import Facetry.Main
import Facetry.MethodPool
import Facetry.NameMap
import Facetry.Naming
import Facetry.Pattern
import Facetry.Pattern.Assembly
import Facetry.Pattern.Automaton
import Facetry.Pattern.Bracket
import Facetry.Pattern.CharSet
import Facetry.Pattern.Encoding
import Facetry.Pattern.Escape
import Facetry.Pattern.Flags
import Facetry.Pattern.Property
import Facetry.Pattern.Property.Age
import Facetry.Pattern.Property.Category
import Facetry.Pattern.Property.Folding
import Facetry.Pattern.Property.Script
import Facetry.Pattern.Property.Segment
import Facetry.Pattern.Property.Trait
import Facetry.Pattern.Reader
import Facetry.ProgrammingModel
import Facetry.Registry
import Facetry.Report
import Facetry.Repository
import Facetry.Sequence
import Facetry.Services
import Facetry.Specification
import Facetry.Specification.Json
import Facetry.Substitutor
import Facetry.Text.Alphabetic
import Facetry.Text.Blank
import Facetry.Text.Case
import Facetry.Text.Cut
import Facetry.Text.Numeral
import Facetry.Text.Ranges
import Facetry.TypeRef
import Facetry.Validator
import Facetry.Value
import Facetry.Variant
import Facetry.Proofs.CacheIndex
import Facetry.Proofs.CacheRuns
import Facetry.Proofs.Progress
import Facetry.Proofs.References
import Facetry.Proofs.LoadingScope
import Facetry.Proofs.LoadingCourse
import Facetry.Proofs.LoadedClasses
import Facetry.Proofs.Currency
import Facetry.Proofs.LoaderRuns
import Facetry.Proofs.MethodClaims
import Facetry.Proofs.MethodUses
import Facetry.Proofs.Dependence
import Facetry.Proofs.DomainCoverage
import Facetry.Proofs.Exchange
import Facetry.Proofs.ObjectTypes
import Facetry.Proofs.Substitution
import Facetry.Proofs.TypeGrammar
import Facetry.Proofs.TypeRoundTrip
import Facetry.Proofs.CanonicalJson
import Facetry.Proofs.ClassRoundTrip
import Facetry.Proofs.HiddenActions
import Facetry.Proofs.Closure
import Facetry.Proofs.ReloadReport
import Facetry.Proofs.UnchangedModel
import Facetry.Proofs.LoadingOrder
import Facetry.Proofs.SequenceOrder
import Facetry.Proofs.SharedObjectTypes
import Facetry.Proofs.WrittenNumbers
import Facetry.Proofs.WrittenValues
import Facetry.Proofs.Fingerprints
import Facetry.Proofs.SupportNames
import Facetry.Proofs.PropertyChanges
import Facetry.Proofs.RecordedFailures
import Facetry.Proofs.CompleteSpecifications
import Facetry.Proofs.DeclaredFacets
import Facetry.Proofs.CapitalLetters
import Facetry.Proofs.RecoveredSuffixes
import Facetry.Proofs.ChangedAnnotations
import Facetry.Proofs.MemberIsolation
import Facetry.Proofs.UndisturbedMembers
import Facetry.Proofs.ProxyWalks
import Facetry.Proofs.ReportContents
import Facetry.Proofs.Titles
import Facetry.Proofs.FactoryEdits
import Facetry.Proofs.ValueTexts
import Facetry.Proofs.Ancestry
import Facetry.Proofs.MemberPlaces
