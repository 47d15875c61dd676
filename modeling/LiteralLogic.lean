import LiteralLogic.Ascending
import LiteralLogic.Automaton
import LiteralLogic.Automaton.FailLinks
import LiteralLogic.Automaton.Occurrences
import LiteralLogic.Automaton.Transitions
import LiteralLogic.CommandLine
import LiteralLogic.CommandLine.Arguments
import LiteralLogic.CommandLine.Directory
import LiteralLogic.CommandLine.Host
import LiteralLogic.Condition
import LiteralLogic.Condition.Evaluation
import LiteralLogic.Condition.Spelling
import LiteralLogic.DecisionTree
import LiteralLogic.Escape
import LiteralLogic.Escape.Spelling
import LiteralLogic.Escape.Word
import LiteralLogic.Folding
import LiteralLogic.Grammar
import LiteralLogic.Haystack
import LiteralLogic.Json
import LiteralLogic.Main
import LiteralLogic.Matcher
import LiteralLogic.NormalForm
import LiteralLogic.NormalForm.Expansion
import LiteralLogic.NormalForm.Path
import LiteralLogic.NormalForm.Polarity
import LiteralLogic.NormalForm.Rewriting
import LiteralLogic.NormalForm.Term
import LiteralLogic.Parse
import LiteralLogic.Prefilter
import LiteralLogic.Proofs.Automaton
import LiteralLogic.Proofs.Automaton.FailLinks
import LiteralLogic.Proofs.Automaton.Patterns
import LiteralLogic.Proofs.Automaton.Suffixes
import LiteralLogic.Proofs.Automaton.Transitions
import LiteralLogic.Proofs.CommandLine.ConditionFile
import LiteralLogic.Proofs.DecisionTree
import LiteralLogic.Proofs.Escape
import LiteralLogic.Proofs.Escape.Bodies
import LiteralLogic.Proofs.Escape.Pairs
import LiteralLogic.Proofs.Escape.Word
import LiteralLogic.Proofs.Evaluation
import LiteralLogic.Proofs.Folding
import LiteralLogic.Proofs.Grammar
import LiteralLogic.Proofs.Haystack
import LiteralLogic.Proofs.Matcher
import LiteralLogic.Proofs.Matcher.Contents
import LiteralLogic.Proofs.Matcher.Folding
import LiteralLogic.Proofs.Matcher.Metrics
import LiteralLogic.Proofs.Matcher.Negatives
import LiteralLogic.Proofs.Matcher.Parts
import LiteralLogic.Proofs.Matcher.Rearranging
import LiteralLogic.Proofs.Matcher.Refusal
import LiteralLogic.Proofs.Matcher.Stats
import LiteralLogic.Proofs.NormalForm
import LiteralLogic.Proofs.NormalForm.AndPaths
import LiteralLogic.Proofs.NormalForm.Expansion
import LiteralLogic.Proofs.NormalForm.FixedPoints
import LiteralLogic.Proofs.NormalForm.Operands
import LiteralLogic.Proofs.NormalForm.Rearranging
import LiteralLogic.Proofs.NormalForm.Regrouping
import LiteralLogic.Proofs.NormalForm.Rewriting
import LiteralLogic.Proofs.NormalForm.Shape
import LiteralLogic.Proofs.NormalForm.Terms
import LiteralLogic.Proofs.Parse
import LiteralLogic.Proofs.Parse.Brackets
import LiteralLogic.Proofs.Parse.Joining
import LiteralLogic.Proofs.Parse.Refusal
import LiteralLogic.Proofs.Prefilter
import LiteralLogic.Proofs.Query
import LiteralLogic.Proofs.Query.Chains
import LiteralLogic.Proofs.Query.Operands
import LiteralLogic.Proofs.Query.Wildcard
import LiteralLogic.Proofs.Registry
import LiteralLogic.Proofs.Registry.FirstSight
import LiteralLogic.Proofs.Report
import LiteralLogic.Proofs.RoundTrip
import LiteralLogic.Proofs.SyntaxError
import LiteralLogic.Proofs.Text.Lowercase
import LiteralLogic.Proofs.Token
import LiteralLogic.Proofs.Token.Escapes
import LiteralLogic.Proofs.Token.Pieces
import LiteralLogic.Proofs.Token.Refusal
import LiteralLogic.Proofs.Trie
import LiteralLogic.Proofs.Trie.Visits
import LiteralLogic.Proofs.Utf8
import LiteralLogic.Query
import LiteralLogic.Query.Truth
import LiteralLogic.Query.Wildcard
import LiteralLogic.Registry
import LiteralLogic.Report
import LiteralLogic.SyntaxError
import LiteralLogic.Text.Blank
import LiteralLogic.Text.CodePoints
import LiteralLogic.Text.Lines
import LiteralLogic.Text.Lowercase
import LiteralLogic.Text.Lowercase.Table
import LiteralLogic.Text.Occurrence
import LiteralLogic.Text.Quoted
import LiteralLogic.Text.Utf8
import LiteralLogic.Text.Verbatim.Table
import LiteralLogic.Token
import LiteralLogic.Token.Brackets
import LiteralLogic.Token.Spelling
import LiteralLogic.Trie
