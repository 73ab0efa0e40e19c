import ActionDispatch.Application.Json
import ActionDispatch.CommandLine.Report
import ActionDispatch.Error
import ActionDispatch.Expression
import ActionDispatch.Handler.Evaluate
import ActionDispatch.Json.Reader
import ActionDispatch.Main
import ActionDispatch.Query.Text
import ActionDispatch.Request.Json
import ActionDispatch.Response.Decoding
import ActionDispatch.Text.Case
import ActionDispatch.Text.Quoted
import ActionDispatch.Value.Json
import ActionDispatch.Proofs.Decimal.Whole
import ActionDispatch.Proofs.Script.Lexing
import ActionDispatch.Proofs.Script.Operands
import ActionDispatch.Proofs.Script.Levels
import ActionDispatch.Proofs.Script.Phrases
import ActionDispatch.Proofs.Script.RoundTrip
import ActionDispatch.Proofs.Script.Tokens
import ActionDispatch.Proofs.Script.Boundary
import ActionDispatch.Proofs.Script.Lexemes
import ActionDispatch.Proofs.Script.Spans
import ActionDispatch.Proofs.Script.Height
import ActionDispatch.Proofs.Script.NestingBound
import ActionDispatch.Proofs.Script.Allowance
import ActionDispatch.Proofs.Script.Bytes
import ActionDispatch.Proofs.Script.Scan
import ActionDispatch.Proofs.Script.MethodCall
import ActionDispatch.Proofs.Script.Beginnings
import ActionDispatch.Proofs.Script.OpaqueBody
import ActionDispatch.Proofs.Script.Carried
import ActionDispatch.Proofs.Script.Enclosed
import ActionDispatch.Proofs.Run.Congruence
import ActionDispatch.Proofs.Script.Evaluation
import ActionDispatch.Proofs.Script.HostCalls
import ActionDispatch.Proofs.Script.Chains
import ActionDispatch.Proofs.Script.Sums
import ActionDispatch.Proofs.Script.Names
import ActionDispatch.Proofs.Script.Scope
import ActionDispatch.Proofs.Handler.Simulation
import ActionDispatch.Proofs.Handler.Limit
import ActionDispatch.Proofs.Handler.Refusal
import ActionDispatch.Proofs.Handler.References
import ActionDispatch.Proofs.Handler.CycleGuard
import ActionDispatch.Proofs.Handler.Script
import ActionDispatch.Proofs.Handler.SelfEvaluation
import ActionDispatch.Proofs.Handler.Depth
import ActionDispatch.Proofs.Handler.Selects
import ActionDispatch.Proofs.Handler.Chain
import ActionDispatch.Proofs.Text.Runs
import ActionDispatch.Proofs.Query.Clauses
import ActionDispatch.Proofs.Query.Conditions
import ActionDispatch.Proofs.Query.Splitting
import ActionDispatch.Proofs.Query.Dialect
import ActionDispatch.Proofs.Query.Acceptance
import ActionDispatch.Proofs.Query.Quotation
import ActionDispatch.Proofs.Table
import ActionDispatch.Proofs.Query.Answers
import ActionDispatch.Proofs.Query.Sessions
import ActionDispatch.Proofs.Handler.Searches
import ActionDispatch.Proofs.Handler.SearchCalls
import ActionDispatch.Proofs.Handler.Shadowing
import ActionDispatch.Proofs.Template.Segments
import ActionDispatch.Proofs.Template.Expansion
import ActionDispatch.Proofs.Template.Parts
import ActionDispatch.Proofs.Template.Rewriting
import ActionDispatch.Proofs.Template.Splitting
import ActionDispatch.Proofs.Template.Titles
import ActionDispatch.Proofs.Handler.Templates
import ActionDispatch.Proofs.Template.Strings
import ActionDispatch.Proofs.Json.Decoding
import ActionDispatch.Proofs.Json.Reading
import ActionDispatch.Proofs.Value.Decoding
import ActionDispatch.Proofs.Value.Json
import ActionDispatch.Proofs.Response.Decoding
import ActionDispatch.Proofs.Record.Titles
import ActionDispatch.Proofs.Record.Composition
import ActionDispatch.Proofs.Template.Paths
import ActionDispatch.Proofs.Handler.Stores
import ActionDispatch.Proofs.Query.Records
import ActionDispatch.Proofs.Query.Normalization
import ActionDispatch.Proofs.Handler.Invocations
import ActionDispatch.Proofs.Expression
