import ClassList.Options.File
import ClassList.Proofs.Distinct
import ClassList.Proofs.Literal
import ClassList.Proofs.Trace
import ClassList.Transform
import ClassList.Proofs.Sorting.Arrangement
import ClassList.Proofs.Sorting.Conservation
import ClassList.Proofs.Results
import ClassList.Proofs.Rules
import ClassList.Proofs.Classification
import ClassList.Proofs.Rendering
import ClassList.Proofs.Transform
import ClassList.Proofs.Totality
import ClassList.Proofs.Decoding
import ClassList.Proofs.Idempotence
import ClassList.Proofs.FirstMatch
import ClassList.Proofs.Number
import ClassList.Proofs.Objects
import ClassList.Proofs.SameOptions
import ClassList.Proofs.Code
import ClassList.Proofs.GroupComments
import ClassList.Proofs.Degradation
import ClassList.Proofs.Questions
import ClassList.Proofs.Options.Documented
import ClassList.Proofs.Options.Keys
import ClassList.Proofs.FunctionNames
import ClassList.Proofs.Options.Checks
import ClassList.Proofs.Options.Verdicts
import ClassList.Proofs.Options.Spelling
import ClassList.Proofs.WritingOrder
import ClassList.Proofs.Decision
import ClassList.Proofs.EligibleGroups
import ClassList.Proofs.GroupingHistory
import ClassList.Proofs.Sorting.Alphabetical
import ClassList.Proofs.Sorting.Occurrences
import ClassList.Proofs.AssignedClasses
import ClassList.Proofs.Patterns
import ClassList.Proofs.DefaultGroups
import ClassList.Proofs.Tokens
import ClassList.Proofs.Variants
import ClassList.Proofs.Collation.Ascii
import ClassList.Proofs.Demands
import ClassList.Proofs.Options.UtilityFunction
import ClassList.Proofs.Segments
import ClassList.Proofs.Expansion
import ClassList.Proofs.AddedClasses
import ClassList.Proofs.SortedRendering
import ClassList.Proofs.Json.Literal
import ClassList.Proofs.Script
import ClassList.Proofs.ClassNames
import ClassList.Proofs.Collation.Levels
import ClassList.Proofs.Brackets
