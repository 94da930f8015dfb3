import ContractLang.CommandLine.Form
import ContractLang.CommandLine.Invocation
import ContractLang.CommandLine.Reader
import ContractLang.CommandLine.Run
import ContractLang.CommandLine.Word
import ContractLang.Cursor
import ContractLang.Declaration.Attempt
import ContractLang.Declaration.Basic
import ContractLang.Declaration.Contract
import ContractLang.Declaration.Member
import ContractLang.Declaration.Trace
import ContractLang.Failure
import ContractLang.Json.Basic
import ContractLang.Json.Print
import ContractLang.Main
import ContractLang.Node.Basic
import ContractLang.Node.Dump
import ContractLang.Pattern.Basic
import ContractLang.Pattern.Reader
import ContractLang.Proofs.Cursor.Fixed
import ContractLang.Proofs.Cursor.Lookahead
import ContractLang.Proofs.Cursor.Passage
import ContractLang.Proofs.Declaration.Concatenation
import ContractLang.Proofs.Declaration.ContractAcceptance
import ContractLang.Proofs.Declaration.ContractLookahead
import ContractLang.Proofs.Declaration.ContractSpan
import ContractLang.Proofs.Declaration.EarlyError
import ContractLang.Proofs.Declaration.Finished
import ContractLang.Proofs.Declaration.Form
import ContractLang.Proofs.Declaration.MemberAcceptance
import ContractLang.Proofs.Declaration.MemberLookahead
import ContractLang.Proofs.Declaration.MemberSpan
import ContractLang.Proofs.Declaration.MethodArguments
import ContractLang.Proofs.Declaration.Progress
import ContractLang.Proofs.Declaration.Regular
import ContractLang.Proofs.Declaration.Sound
import ContractLang.Proofs.Declaration.Source
import ContractLang.Proofs.Declaration.TypeText
import ContractLang.Proofs.Pairing.Basic
import ContractLang.Proofs.Pairing.Contract
import ContractLang.Proofs.Pairing.Layout
import ContractLang.Proofs.Pairing.Member
import ContractLang.Proofs.Pairing.Renaming
import ContractLang.Proofs.Pairing.Span
import ContractLang.Proofs.Pattern.Run
import ContractLang.Proofs.Session.History
import ContractLang.Proofs.Session.Shape
import ContractLang.Proofs.Span.Enclosed
import ContractLang.Proofs.Span.Lookahead
import ContractLang.Proofs.Span.Nesting
import ContractLang.Proofs.Span.Passage
import ContractLang.Proofs.Span.Region
import ContractLang.Proofs.Span.Step
import ContractLang.Proofs.Span.TypeForm
import ContractLang.Proofs.Span.TypeReading
import ContractLang.Proofs.Token.Apart
import ContractLang.Proofs.Token.CodeText
import ContractLang.Proofs.Token.Cut
import ContractLang.Proofs.Token.Fits
import ContractLang.Proofs.Token.Follow
import ContractLang.Proofs.Token.Longest
import ContractLang.Proofs.Token.Reach
import ContractLang.Proofs.Token.Segment
import ContractLang.Proofs.Token.Shapes
import ContractLang.Proofs.Token.Slice
import ContractLang.Proofs.Token.TypeText
import ContractLang.Session
import ContractLang.Settings.Basic
import ContractLang.Settings.File
import ContractLang.Settings.Table
import ContractLang.Span.Bracket
import ContractLang.Span.Code
import ContractLang.Span.Statement
import ContractLang.Span.TypeName
import ContractLang.Store.Basic
import ContractLang.Store.Path
import ContractLang.SyntaxError
import ContractLang.Text.Category
import ContractLang.Text.Hex
import ContractLang.Text.Newline
import ContractLang.Text.Quoted
import ContractLang.Text.Utf8
import ContractLang.Token.Basic
import ContractLang.Token.Lexer
import ContractLang.Token.Standard
import ContractLang.Toml.Build
import ContractLang.Toml.Calendar
import ContractLang.Toml.Fault
import ContractLang.Toml.Number
import ContractLang.Toml.Print
import ContractLang.Toml.Reader
import ContractLang.Toml.Text
import ContractLang.Toml.Value
import ContractLang.Proofs.Span.Fault
import ContractLang.Proofs.Span.CodeEnd
import ContractLang.Proofs.Text.Utf8
import ContractLang.Proofs.Toml.BasicString
import ContractLang.Proofs.Toml.Section
import ContractLang.Proofs.Settings.RoundTrip
import ContractLang.Proofs.Store.Place
import ContractLang.Proofs.Store.Beside
import ContractLang.Proofs.CommandLine.InitConfig
import ContractLang.Proofs.Settings.Saved
import ContractLang.Proofs.CommandLine.Runs
import ContractLang.Proofs.CommandLine.Arguments
import ContractLang.Proofs.CommandLine.ParseRun
import ContractLang.Proofs.Span.GenericList
import ContractLang.Proofs.Span.AngleMatching
import ContractLang.Proofs.Token.Layout
import ContractLang.Proofs.Span.TypeSpelling
import ContractLang.Proofs.Token.Lines
import ContractLang.Proofs.Declaration.BodyStatements
import ContractLang.Proofs.Declaration.CapturedCode
import ContractLang.Proofs.Token.LineEnds
import ContractLang.Proofs.Span.Arrival
import ContractLang.Proofs.Declaration.Arrival
import ContractLang.Proofs.Declaration.ErrorPlace
import ContractLang.Proofs.Declaration.Debug
import ContractLang.Proofs.CommandLine.DebugSwitch
import ContractLang.Proofs.CommandLine.Trace
import ContractLang.Proofs.Toml.Keys
import ContractLang.Proofs.Toml.FileOrder
import ContractLang.Proofs.Settings.Entries
import ContractLang.Proofs.Settings.Load
import ContractLang.Proofs.Declaration.Names
import ContractLang.Proofs.Json.Alike
import ContractLang.Proofs.Json.Print
import ContractLang.Proofs.Node.Dump
import ContractLang.Proofs.CommandLine.PrintedTree
import ContractLang.Proofs.Span.StatementEnd
import ContractLang.Proofs.CommandLine.PrintedTokens
import ContractLang.Proofs.Cursor.Rounds
import ContractLang.Proofs.Declaration.ReadingOn
