import SemanticQuery.Document.CatalogFormat
import SemanticQuery.Document.SettingsFormat
import SemanticQuery.Expr.Aggregate
import SemanticQuery.Expr.Build
import SemanticQuery.Expr.Display
import SemanticQuery.Expr.LocalName
import SemanticQuery.Expr.RowIdentity
import SemanticQuery.Validation.Check
import SemanticQuery.Proofs.Expr.Induction
import SemanticQuery.Proofs.Expr.Equality
import SemanticQuery.Proofs.Expr.Leaves
import SemanticQuery.Proofs.Expr.LeafRewriting
import SemanticQuery.Proofs.Expr.RowIdentity
import SemanticQuery.Proofs.Validation.Report
import SemanticQuery.Proofs.Expr.Congruence
import SemanticQuery.Proofs.Predicate.Selection
import SemanticQuery.Proofs.Validation.References
import SemanticQuery.Proofs.Validation.Wrapping
import SemanticQuery.Proofs.Number.Digits
import SemanticQuery.Proofs.Number.Numeral
import SemanticQuery.Proofs.Number.Rounding
import SemanticQuery.Proofs.Number.Shortest
import SemanticQuery.Proofs.Calendar.DateTime
import SemanticQuery.Proofs.Text.Quoted
import SemanticQuery.Proofs.Datum.Encoding
import SemanticQuery.Proofs.Datum.Quotation
import SemanticQuery.Proofs.Text.LowerCase
import SemanticQuery.Proofs.Expr.Constant
import SemanticQuery.Proofs.Expr.Shape
import SemanticQuery.Proofs.Expr.EqualityLaws
import SemanticQuery.Proofs.Expr.LocalNames
import SemanticQuery.Proofs.Predicate.Disjunction
import SemanticQuery.Proofs.Predicate.Optional
import SemanticQuery.Proofs.Validation.Membership
import SemanticQuery.Proofs.Schema.Consistency
import SemanticQuery.Proofs.Schema.Nesting
import SemanticQuery.Proofs.Validation.SupportedAggregates
import SemanticQuery.Proofs.Validation.Options
import SemanticQuery.Proofs.Expr.Rectangular
import SemanticQuery.Proofs.Expr.Reachable
import SemanticQuery.Proofs.Validation.Grouping
import SemanticQuery.Proofs.Expr.SharedNodes
import SemanticQuery.Expr.SharedRewrite
import SemanticQuery.Proofs.Expr.LeafPlaces
import SemanticQuery.Proofs.Expr.Sharing
import SemanticQuery.Proofs.Expr.AggregateEdits
import SemanticQuery.Proofs.Schema.Agreement
