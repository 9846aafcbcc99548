import DocComment.Doclet.Same
import DocComment.Folder
import DocComment.Main
import DocComment.Session
import DocComment.Proofs.Enrich.Kept
import DocComment.Proofs.Longname.Prototype
import DocComment.Proofs.Naming.Resolve
import DocComment.Proofs.Enrich.Gaps
import DocComment.Proofs.Dictionary.Standard
import DocComment.Proofs.Enrich.Members
import DocComment.Proofs.Naming.Repeat
import DocComment.Proofs.Build.Tags
import DocComment.Proofs.Build.Stages
import DocComment.Proofs.Longname.Parent
import DocComment.Proofs.Naming.Story
import DocComment.Proofs.Build.Registration
import DocComment.Proofs.Build.Story
import DocComment.Proofs.Build.Faults
import DocComment.Proofs.Doclet.Merge
import DocComment.Proofs.Enrich.Absorb
import DocComment.Proofs.Enrich.Repeat
import DocComment.Proofs.Fact.RoundTrip
import DocComment.Proofs.Dictionary.Accepted
import DocComment.Proofs.Tagging.Parts
import DocComment.Proofs.Tagging.Order
import DocComment.Proofs.Build.FirstWriter
import DocComment.Proofs.Command.Independence
import DocComment.Proofs.Comment.Pieces
import DocComment.Proofs.Comment.Openings
import DocComment.Proofs.Comment.LineStarts
import DocComment.Proofs.Build.Place
import DocComment.Proofs.Session.Steps
import DocComment.Proofs.Session.OwnContext
import DocComment.Proofs.Session.Twin
import DocComment.Proofs.Comment.Wrapping
import DocComment.Proofs.Enrich.Alignment
import DocComment.Proofs.Enrich.Unions
import DocComment.Proofs.Enrich.Signatures
import DocComment.Proofs.Text.Trim
import DocComment.Proofs.TypeExpr.Nesting
import DocComment.Proofs.TypeExpr.Union
import DocComment.Proofs.TypeExpr.Written
import DocComment.Proofs.Tag.Body
import DocComment.Proofs.Enrich.Placement
import DocComment.Proofs.Dictionary.Redefined
import DocComment.Proofs.Enrich.Arity
import DocComment.Proofs.Naming.Agreement
import DocComment.Proofs.Text.Pieces
import DocComment.Proofs.Text.Indent
import DocComment.Proofs.Comment.Block
import DocComment.Proofs.Build.Examples
import DocComment.Proofs.Path.Normal
import DocComment.Proofs.Build.Filename
import DocComment.Proofs.Longname.Reading
import DocComment.Proofs.Naming.Prototypes
import DocComment.Proofs.Build.Variation
import DocComment.Proofs.Build.Fallback
import DocComment.Proofs.SyntaxNode.Levels
import DocComment.Proofs.Longname.Namespace
import DocComment.Proofs.Journal.Scopes
import DocComment.Proofs.Build.CodeValue
