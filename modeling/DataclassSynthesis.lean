import DataclassSynthesis.Analysis.Call
import DataclassSynthesis.Analysis.Definition
import DataclassSynthesis.Analysis.Match
import DataclassSynthesis.Dataclass.Decorator
import DataclassSynthesis.Dataclass.Field
import DataclassSynthesis.Dataclass.Module
import DataclassSynthesis.Diagnostic.Snippet
import DataclassSynthesis.Json.Records
import DataclassSynthesis.Settings.File
import DataclassSynthesis.Proofs.ConstructorHistory
import DataclassSynthesis.Proofs.ReachedTypes
import DataclassSynthesis.Proofs.TypeEnlargement
import DataclassSynthesis.Proofs.ClassTypes
import DataclassSynthesis.Proofs.DecorationEdits
import DataclassSynthesis.Proofs.InheritanceSearch
import DataclassSynthesis.Proofs.DecorationTwice
import DataclassSynthesis.Proofs.DecorationReads
import DataclassSynthesis.Proofs.GroundedTypes
import DataclassSynthesis.Proofs.TwinTypes
import DataclassSynthesis.Proofs.MismatchTexts
import DataclassSynthesis.Proofs.LaterStates
import DataclassSynthesis.Proofs.IndependentDecorations
import DataclassSynthesis.Proofs.CleanFailures
import DataclassSynthesis.Proofs.PointHistory
import DataclassSynthesis.Proofs.StableInterning
import DataclassSynthesis.Proofs.RecordedWalks
import DataclassSynthesis.Proofs.UnknownParts
import DataclassSynthesis.Proofs.FunctionSubstitution
import DataclassSynthesis.Proofs.ReaderRuns
import DataclassSynthesis.Proofs.PlainToml
import DataclassSynthesis.Proofs.SettingsText
import DataclassSynthesis.Proofs.BoundedDecoration
import DataclassSynthesis.Proofs.ClassVariables
import DataclassSynthesis.Proofs.ParameterOrder
import DataclassSynthesis.Proofs.DescribedDefaults
import DataclassSynthesis.Proofs.PointSearch
import DataclassSynthesis.Proofs.CanonicalUnions
import DataclassSynthesis.Proofs.OrderedLocals
import DataclassSynthesis.Proofs.FieldCalls
import DataclassSynthesis.Proofs.FailedApplications
import DataclassSynthesis.Proofs.SettingsPrecedence
import DataclassSynthesis.Proofs.ContainerNames
import DataclassSynthesis.Proofs.ParameterBlocks
import DataclassSynthesis.Proofs.RepeatedAnnotations
import DataclassSynthesis.Proofs.DecoratorOptions
