import TypedGraphQL.Main
import TypedGraphQL.Files.Tree
import TypedGraphQL.Number.Decimal
import TypedGraphQL.Response.Operation
import TypedGraphQL.Proofs.Response.Sealed
import TypedGraphQL.Proofs.Response.Coverage
import TypedGraphQL.Proofs.Execution.Answer
import TypedGraphQL.Proofs.Execution.Reading
import TypedGraphQL.Proofs.Execution.Agreement
import TypedGraphQL.Proofs.Syntax.Token
import TypedGraphQL.Proofs.Syntax.Numeral
import TypedGraphQL.Proofs.Number.Shortest
import TypedGraphQL.Proofs.Syntax.Written
import TypedGraphQL.Proofs.Syntax.Tree
import TypedGraphQL.Proofs.Syntax.Value
import TypedGraphQL.Proofs.Syntax.Document
import TypedGraphQL.Proofs.Syntax.RoundTrip
import TypedGraphQL.Proofs.Response.Recorded
import TypedGraphQL.Proofs.Response.Dependence
import TypedGraphQL.Proofs.Selection.Monoid
import TypedGraphQL.Proofs.Syntax.Lexeme
import TypedGraphQL.Proofs.Syntax.Grammar
import TypedGraphQL.Proofs.Syntax.Sentence
import TypedGraphQL.Proofs.Json.Written
import TypedGraphQL.Proofs.Schema.WellFormed
import TypedGraphQL.Proofs.Introspection.Writer
import TypedGraphQL.Proofs.Introspection.RoundTrip
import TypedGraphQL.Proofs.Introspection.Accepted
import TypedGraphQL.Proofs.Schema.Reference
import TypedGraphQL.Proofs.Binding.Path
import TypedGraphQL.Proofs.Binding.ItemNames
import TypedGraphQL.Proofs.Binding.Assembly
import TypedGraphQL.Proofs.Selection.Repetition
import TypedGraphQL.Proofs.Response.Call
import TypedGraphQL.Proofs.Response.Merging
import TypedGraphQL.Proofs.Response.Splice
import TypedGraphQL.Proofs.Response.Nullability
import TypedGraphQL.Proofs.Selection.Path
import TypedGraphQL.Proofs.Argument.Denotation
import TypedGraphQL.Proofs.Response.Wrapping
import TypedGraphQL.Proofs.Binding.Scope
import TypedGraphQL.Proofs.Schema.Resolution
import TypedGraphQL.Proofs.Binding.Forwarding
import TypedGraphQL.Proofs.Introspection.Relevant
import TypedGraphQL.Proofs.Introspection.Kept
import TypedGraphQL.Proofs.Introspection.Indifference
import TypedGraphQL.Proofs.Binding.Legal
import TypedGraphQL.Proofs.Text.Quoted
import TypedGraphQL.Proofs.Binding.CaseBlock
import TypedGraphQL.Proofs.Binding.NameTable
import TypedGraphQL.Proofs.Binding.DocComment
import TypedGraphQL.Proofs.Binding.TypeExpr
import TypedGraphQL.Proofs.Binding.Containment
import TypedGraphQL.Proofs.Binding.Extension
import TypedGraphQL.Proofs.Files.Parent
import TypedGraphQL.Proofs.Files.Place
import TypedGraphQL.Proofs.Files.Walk
import TypedGraphQL.Proofs.Files.Generation
import TypedGraphQL.Proofs.Files.Change
