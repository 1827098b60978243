import ExcludeRules.CommandLine.Inputs
import ExcludeRules.Expression.Marks
import ExcludeRules.Main
import ExcludeRules.Proofs.Rule.Frame
import ExcludeRules.Proofs.Path.Placement
import ExcludeRules.Proofs.Pattern.Compiling
import ExcludeRules.Proofs.Rule.Stem
import ExcludeRules.Proofs.Pattern.Inheritance
import ExcludeRules.Proofs.Pattern.Globbing
import ExcludeRules.Proofs.Pattern.Rerooting
import ExcludeRules.Proofs.Pattern.Sameness
import ExcludeRules.Proofs.FilterList.Duplicates
import ExcludeRules.Proofs.Rule.Wildcards
import ExcludeRules.Proofs.Pattern.Acceptance
import ExcludeRules.Proofs.Pattern.Tail
import ExcludeRules.Proofs.Pattern.Spelling
import ExcludeRules.Proofs.Log.Delivery
import ExcludeRules.Proofs.FilterList.Verdicts
import ExcludeRules.Proofs.Settings.Reading
import ExcludeRules.Proofs.Settings.Mapping
import ExcludeRules.Proofs.CommandLine.Opening
import ExcludeRules.Proofs.CommandLine.Sources
import ExcludeRules.Proofs.CommandLine.Checking
import ExcludeRules.Proofs.CommandLine.Escaping
import ExcludeRules.Proofs.Settings.WellKeyed
import ExcludeRules.Proofs.Expression.Members
import ExcludeRules.Proofs.Rule.Cutting
import ExcludeRules.Proofs.Settings.Agreement
import ExcludeRules.Proofs.Settings.Clearing
import ExcludeRules.Proofs.Rule.Members
import ExcludeRules.Proofs.Pattern.Members
import ExcludeRules.Proofs.Pattern.OpenBracket
import ExcludeRules.Proofs.Settings.Visibility
import ExcludeRules.Proofs.Settings.Refusal
import ExcludeRules.Proofs.Text.Utf8
import ExcludeRules.Proofs.Text.Lines
import ExcludeRules.Proofs.Rule.ClassMembers
import ExcludeRules.Proofs.Pattern.ClassMembers
import ExcludeRules.Proofs.Settings.Environment
import ExcludeRules.Proofs.Path.Refusal
import ExcludeRules.Proofs.Pattern.Ascent
import ExcludeRules.Proofs.FilterList.Refusal
import ExcludeRules.Proofs.FilterList.Loading
import ExcludeRules.Proofs.FilterList.Copying
import ExcludeRules.Proofs.CommandLine.Operands
import ExcludeRules.Proofs.CommandLine.RelativeRoot
import ExcludeRules.Proofs.Rule.Scan
import ExcludeRules.Proofs.Pattern.UnknownClass
import ExcludeRules.Proofs.Rule.StarRuns
import ExcludeRules.Log.Step
import ExcludeRules.Proofs.Log.Scopes
import ExcludeRules.Proofs.Log.Calls
import ExcludeRules.Proofs.FilterList.DefaultLogger
