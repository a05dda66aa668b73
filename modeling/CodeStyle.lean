import CodeStyle.Main
import CodeStyle.Proofs.Analysis.Composition
import CodeStyle.Proofs.Analysis.Discovery
import CodeStyle.Proofs.Analysis.EntryPoints
import CodeStyle.Proofs.Analysis.FinalNames
import CodeStyle.Proofs.Analysis.Independence
import CodeStyle.Proofs.Analysis.Location
import CodeStyle.Proofs.Analysis.Report
import CodeStyle.Proofs.Analysis.Rules
import CodeStyle.Proofs.Analysis.Schedule
import CodeStyle.Proofs.Analysis.Unparsed
import CodeStyle.Proofs.CommandLine.ExitCode
import CodeStyle.Proofs.CommandLine.RuleList
import CodeStyle.Proofs.Config.RuleSet
import CodeStyle.Proofs.Config.Switch
import CodeStyle.Proofs.Disk.Follow
import CodeStyle.Proofs.Disk.Read
import CodeStyle.Proofs.Disk.Sorted
import CodeStyle.Proofs.Excerpt.Existence
import CodeStyle.Proofs.Excerpt.Fault
import CodeStyle.Proofs.Excerpt.Inverse
import CodeStyle.Proofs.Excerpt.Words
import CodeStyle.Proofs.Glob
import CodeStyle.Proofs.JsonValue.RoundTrip
import CodeStyle.Proofs.NamePattern
import CodeStyle.Proofs.Path
import CodeStyle.Proofs.PathFilter
import CodeStyle.Proofs.Regex.Start
import CodeStyle.Proofs.Regex.Tail
import CodeStyle.Proofs.Regex.TailClass
import CodeStyle.Proofs.Regex.TailClassList
import CodeStyle.Proofs.Regex.TailItem
import CodeStyle.Proofs.Regex.TailStep
import CodeStyle.Proofs.Report.Groups
import CodeStyle.Proofs.Report.Headline
import CodeStyle.Proofs.Report.Renderings
import CodeStyle.Proofs.Report.Sorted
import CodeStyle.Proofs.Report.Stored
import CodeStyle.Proofs.Rule.Block
import CodeStyle.Proofs.Rule.Braces
import CodeStyle.Proofs.Rule.Check
import CodeStyle.Proofs.Rule.Clauses
import CodeStyle.Proofs.Rule.Declaration
import CodeStyle.Proofs.Rule.Definition
import CodeStyle.Proofs.Rule.Form
import CodeStyle.Proofs.Rule.Head
import CodeStyle.Proofs.Rule.Indentation
import CodeStyle.Proofs.Rule.Layout
import CodeStyle.Proofs.Rule.Limit
import CodeStyle.Proofs.Rule.LineEnds
import CodeStyle.Proofs.Rule.Location
import CodeStyle.Proofs.Rule.Message
import CodeStyle.Proofs.Rule.Parameter
import CodeStyle.Proofs.Rule.Pattern
import CodeStyle.Proofs.Rule.SharedKey
import CodeStyle.Proofs.Rule.Variable
import CodeStyle.Proofs.Rule.Visit
import CodeStyle.Proofs.Sorting
import CodeStyle.Proofs.Source
import CodeStyle.Proofs.SyntaxTree.Declarator
import CodeStyle.Proofs.SyntaxTree.Levels
import CodeStyle.Proofs.SyntaxTree.Tokens
import CodeStyle.Proofs.SyntaxTree.Visit
import CodeStyle.Proofs.SyntaxTree.Walk
