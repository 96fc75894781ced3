import TypedReference.Main
import TypedReference.Proofs.Assembly.Acceptance
import TypedReference.Proofs.Assembly.Conservation
import TypedReference.Proofs.Assembly.Containment
import TypedReference.Proofs.Assembly.Descriptions
import TypedReference.Proofs.Assembly.Identity
import TypedReference.Proofs.Assembly.Names
import TypedReference.Proofs.Assembly.Order
import TypedReference.Proofs.Assembly.References
import TypedReference.Proofs.Assembly.Tables
import TypedReference.Proofs.CommandLine.Repetition
import TypedReference.Proofs.Constant.Registered
import TypedReference.Proofs.DeclarationFormat.Decoding
import TypedReference.Proofs.Markdown.Width
import TypedReference.Proofs.Merging.Batches
import TypedReference.Proofs.Page
import TypedReference.Proofs.Registries
import TypedReference.Proofs.Signature.Arguments
import TypedReference.Proofs.Signature.DottedNames
import TypedReference.Proofs.Text.Nesting
import TypedReference.Proofs.TypeExpr.OneMoreClass
import TypedReference.Proofs.TypeExpr.Spacing
import TypedReference.Proofs.TypeExpr.Termination
