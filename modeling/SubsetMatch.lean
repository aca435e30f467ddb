import SubsetMatch.Base64Url
import SubsetMatch.CommandLine.Check
import SubsetMatch.CommandLine.Options
import SubsetMatch.CommandLine.Style
import SubsetMatch.Comparator
import SubsetMatch.Config.Basic
import SubsetMatch.Config.FromJson
import SubsetMatch.Config.FromYaml
import SubsetMatch.Decimal.Binary64
import SubsetMatch.Decimal.Numeral
import SubsetMatch.Decimal.Power
import SubsetMatch.Decimal.Shortest
import SubsetMatch.Diff.Compact
import SubsetMatch.Diff.Edit
import SubsetMatch.Diff.Script
import SubsetMatch.Diff.Unified
import SubsetMatch.Directive.Basic
import SubsetMatch.Directive.Scan
import SubsetMatch.Directive.SyntaxError
import SubsetMatch.Entries
import SubsetMatch.Failure
import SubsetMatch.Hash.Hmac
import SubsetMatch.Hash.Sha2
import SubsetMatch.Inspect
import SubsetMatch.Json.Fault
import SubsetMatch.Json.NumberText
import SubsetMatch.Json.Read
import SubsetMatch.Json.Skim
import SubsetMatch.Json.Render
import SubsetMatch.Json.StringText
import SubsetMatch.Json.Value
import SubsetMatch.KeyPath
import SubsetMatch.KeySelector
import SubsetMatch.Main
import SubsetMatch.Matcher.Basic
import SubsetMatch.Matcher.Error
import SubsetMatch.Matcher.Length
import SubsetMatch.Matcher.Numeric
import SubsetMatch.Matcher.Pattern
import SubsetMatch.Matcher.TypeName
import SubsetMatch.NameTable
import SubsetMatch.Pattern.Bracket
import SubsetMatch.Pattern.Class
import SubsetMatch.Pattern.Engine
import SubsetMatch.Pattern.Escape
import SubsetMatch.Pattern.Flags
import SubsetMatch.Pattern.Footprint
import SubsetMatch.Pattern.Mode
import SubsetMatch.Pattern.Read
import SubsetMatch.Pattern.Regex
import SubsetMatch.Pattern.Search
import SubsetMatch.Pattern.SyntaxError
import SubsetMatch.Proofs.Base64Url
import SubsetMatch.Proofs.Comparator.Agreement
import SubsetMatch.Proofs.Comparator.Calls
import SubsetMatch.Proofs.Comparator.Context
import SubsetMatch.Proofs.Comparator.IssuedToken
import SubsetMatch.Proofs.Comparator.Monotone
import SubsetMatch.Proofs.Comparator.NeedleFault
import SubsetMatch.Proofs.Comparator.Outcome
import SubsetMatch.Proofs.Comparator.Place
import SubsetMatch.Proofs.Comparator.Termination
import SubsetMatch.Proofs.Comparator.VisitOrder
import SubsetMatch.Proofs.Comparator.References
import SubsetMatch.Proofs.Comparator.TokenHistory
import SubsetMatch.Proofs.Comparator.Walk
import SubsetMatch.Proofs.CommandLine.Status
import SubsetMatch.Proofs.Directive.Grammar
import SubsetMatch.Proofs.Directive.Parse
import SubsetMatch.Proofs.Directive.RoundTrip
import SubsetMatch.Proofs.Directive.Continuation
import SubsetMatch.Proofs.Directive.Escapes
import SubsetMatch.Proofs.Directive.Scanner
import SubsetMatch.Proofs.Json.Document
import SubsetMatch.Proofs.Json.Growth
import SubsetMatch.Proofs.KeySelector
import SubsetMatch.Proofs.Matcher.Alike
import SubsetMatch.Proofs.Matcher.Arguments
import SubsetMatch.Proofs.Text.Utf8
import SubsetMatch.Proofs.Token.Issued
import SubsetMatch.Proofs.Token.Registration
import SubsetMatch.Registry
import SubsetMatch.Report
import SubsetMatch.Standard
import SubsetMatch.Text.Blank
import SubsetMatch.Text.Cut
import SubsetMatch.Text.Utf8
import SubsetMatch.Text.Visible
import SubsetMatch.Token.Algorithm
import SubsetMatch.Token.Claims
import SubsetMatch.Token.Header
import SubsetMatch.Token.Table
import SubsetMatch.Token.Verify
import SubsetMatch.Unicode.Age
import SubsetMatch.Unicode.AgeTable
import SubsetMatch.Unicode.CaseFold
import SubsetMatch.Unicode.Category
import SubsetMatch.Unicode.CategoryTable
import SubsetMatch.Unicode.CharSet
import SubsetMatch.Unicode.FoldTable
import SubsetMatch.Unicode.Name
import SubsetMatch.Unicode.Property
import SubsetMatch.Unicode.PropertyTable
import SubsetMatch.Unicode.Runs
import SubsetMatch.Unicode.Script
import SubsetMatch.Unicode.ScriptTable
import SubsetMatch.Yaml.BlockScalar
import SubsetMatch.Yaml.Cursor
import SubsetMatch.Yaml.Document
import SubsetMatch.Yaml.Node
import SubsetMatch.Yaml.Resolve
import SubsetMatch.Yaml.Scalar
import SubsetMatch.Yaml.Token
import SubsetMatch.Proofs.Comparator.SpelledOut
import SubsetMatch.Proofs.Comparator.Exhaustive
import SubsetMatch.Proofs.Json.Reordering
import SubsetMatch.Proofs.Comparator.KeyOrder
import SubsetMatch.Proofs.Json.Inclusion
import SubsetMatch.Proofs.Comparator.PartialOrder
import SubsetMatch.Proofs.Json.Path
import SubsetMatch.Proofs.Comparator.FailurePlace
import SubsetMatch.Proofs.NameTable
import SubsetMatch.Proofs.Comparator.Secrecy
import SubsetMatch.Proofs.Comparator.SharedCaches
import SubsetMatch.Proofs.Config.Build
import SubsetMatch.Proofs.Directive.Culprit
import SubsetMatch.Proofs.Json.StringText
import SubsetMatch.Proofs.KeyPath
import SubsetMatch.Proofs.Comparator.Registration
import SubsetMatch.Proofs.Decimal.Numeral
import SubsetMatch.Proofs.Json.IntegerText
import SubsetMatch.Proofs.Comparator.IntegerOrder
import SubsetMatch.Proofs.Matcher.PatternText
import SubsetMatch.Proofs.Unicode.Name
import SubsetMatch.Proofs.Json.Skim
