import DocFilter.Criteria.Call
import DocFilter.Criteria.HashData
import DocFilter.Number.Nearest
import DocFilter.Pattern.Settings
import DocFilter.Reference.Scope
import DocFilter.Proofs.Equality
import DocFilter.Proofs.Shape
import DocFilter.Proofs.Reachable
import DocFilter.Proofs.OperatorDocument
import DocFilter.Proofs.SameNode
import DocFilter.Proofs.Congruence
import DocFilter.Proofs.PredicatesKept
import DocFilter.Proofs.Negation
import DocFilter.Proofs.ScopeVariables
import DocFilter.Proofs.Renaming
import DocFilter.Proofs.Bindings
import DocFilter.Proofs.VariablePaths
import DocFilter.Proofs.Arrangement
import DocFilter.Proofs.PaddedText
import DocFilter.Proofs.InPlace
import DocFilter.Proofs.RefusedCalls
import DocFilter.Proofs.HashedEquality
import DocFilter.Proofs.ProperCriteria
import DocFilter.Proofs.EqualityLaws
import DocFilter.Proofs.WireTree
import DocFilter.Proofs.Unambiguous
import DocFilter.Proofs.ActiveNode
import DocFilter.Proofs.DistanceBounds
import DocFilter.Proofs.PendingNegation
import DocFilter.Proofs.KeptEquality
import DocFilter.Proofs.PlainReading
import DocFilter.Proofs.RepetitionCounts
import DocFilter.Proofs.SpelledTerm
import DocFilter.Proofs.CommonSyntax
import DocFilter.Proofs.CommonEscape
import DocFilter.Proofs.CommonClass
import DocFilter.Proofs.CommonRepetition
import DocFilter.Proofs.CommonReading
import DocFilter.Proofs.EqualPatterns
import DocFilter.Proofs.SettledNodes
import DocFilter.Value.Edit
import DocFilter.Proofs.EditHistory
import DocFilter.Proofs.EncodedBytes
import DocFilter.Proofs.StandardText
import DocFilter.Proofs.MaskRoundTrip
import DocFilter.Proofs.KeptLimits
import DocFilter.Proofs.OperandPaths
import DocFilter.Proofs.MappedGeometry
import DocFilter.Proofs.RecordedGeometry
import DocFilter.Proofs.OperatorPlaces
import DocFilter.Proofs.AccumulatedBounds
import DocFilter.Proofs.ExposedFields
import DocFilter.Proofs.PatternIdentity
import DocFilter.Proofs.RenderedReferences
import DocFilter.Proofs.RenamedKeys
import DocFilter.Proofs.MaskGrammar
import DocFilter.Proofs.RebuiltReferences
import DocFilter.Proofs.LimitTexts
import DocFilter.Proofs.ShapeRendering
import DocFilter.Proofs.UnicodeOption
import DocFilter.Proofs.NearestNumbers
import DocFilter.Proofs.ShortestDecimals
