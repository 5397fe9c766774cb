import RichText.Engine.Basic
import RichText.Proofs.Component.Neighbours
import RichText.Proofs.Component.Screen
import RichText.Proofs.Directive.Locality
import RichText.Proofs.Expr.Asking
import RichText.Proofs.Expr.Comparison
import RichText.Proofs.Expr.Power
import RichText.Proofs.Expr.Substring
import RichText.Proofs.Scope.Marks
import RichText.Proofs.Style.Algebra
import RichText.Proofs.Style.Spelling
import RichText.Proofs.Text.Cache
import RichText.Proofs.Text.Number
import RichText.Proofs.Value.Numbers
import RichText.Proofs.Walk.Desugaring
import RichText.Proofs.Walk.Minimality
import RichText.Proofs.Walk.Splicing
import RichText.Proofs.Walk.Styling
import RichText.Proofs.Walk.Unrolling
