import ConfigRules.Main
import ConfigRules.Proofs.Access
import ConfigRules.Proofs.Alike
import ConfigRules.Proofs.Except
import ConfigRules.Proofs.Numeral
import ConfigRules.Proofs.NumeralPattern
import ConfigRules.Proofs.LongestNumeral
import ConfigRules.Proofs.Integer
import ConfigRules.Proofs.Binary64
import ConfigRules.Proofs.Decimal
import ConfigRules.Proofs.Magnitude
import ConfigRules.Proofs.FloatStyle
import ConfigRules.Proofs.Rank
import ConfigRules.Proofs.Interval.Reading
import ConfigRules.Proofs.Interval.Integral
import ConfigRules.Proofs.Interval.Canonical
import ConfigRules.Proofs.Interval.Equality
import ConfigRules.Proofs.SyntaxFault
import ConfigRules.Proofs.Condition.Token
import ConfigRules.Proofs.Condition.Parser
import ConfigRules.Proofs.Condition.Reading
import ConfigRules.Proofs.Condition.Anchor
import ConfigRules.Proofs.Condition.Refusal
import ConfigRules.Proofs.Condition.Extension
import ConfigRules.Proofs.Condition.Membership
import ConfigRules.Proofs.Condition.Exactness
import ConfigRules.Proofs.Requirement
import ConfigRules.Proofs.Rule
import ConfigRules.Proofs.Progress
import ConfigRules.Proofs.Precedence
import ConfigRules.Proofs.Ruleset
import ConfigRules.Proofs.EvaluationOrder
import ConfigRules.Proofs.Circle
import ConfigRules.Proofs.Pass
import ConfigRules.Proofs.Frame
import ConfigRules.Proofs.ModeAgreement
import ConfigRules.Proofs.Separate
import ConfigRules.Proofs.Coverage
import ConfigRules.Proofs.References
import ConfigRules.Proofs.Idempotence
import ConfigRules.Proofs.OrderIndependence
import ConfigRules.Proofs.Retention
import ConfigRules.Proofs.Condition.Grammar
import ConfigRules.Proofs.Condition.Recognition
import ConfigRules.Proofs.Condition.Scan
import ConfigRules.Proofs.Condition.Literal
import ConfigRules.Proofs.Condition.Composition
import ConfigRules.Proofs.Condition.Placement
import ConfigRules.Proofs.Condition.Display
import ConfigRules.Proofs.Trace
import ConfigRules.Proofs.Phase
import ConfigRules.Proofs.Condition.Outcome
import ConfigRules.Proofs.Condition.Tiling
import ConfigRules.Proofs.Definition
import ConfigRules.Proofs.Nulls
import ConfigRules.Proofs.Equivalence
import ConfigRules.Proofs.Lens
import ConfigRules.Proofs.Inheritance
import ConfigRules.Proofs.WrittenInteger
import ConfigRules.Proofs.Json.Number
import ConfigRules.Proofs.Json.Text
import ConfigRules.Proofs.Json.RoundTrip
import ConfigRules.Proofs.CommandLine.Files
import ConfigRules.Proofs.CommandLine.Arguments
import ConfigRules.Proofs.Json.RoundTrip
import ConfigRules.Proofs.CommandLine.Tools
import ConfigRules.Proofs.CommandLine.Tools
import ConfigRules.Proofs.CommandLine.Publication
