import MathProg.Main
import MathProg.Proofs.Attachment.Agreement
import MathProg.Proofs.Formula.FrontEnds
import MathProg.Proofs.Model.Meaning
import MathProg.Proofs.ConstraintSet.Spelling
import MathProg.Proofs.Formula.Expanded
import MathProg.Proofs.Function.Monomials
import MathProg.Proofs.Representation.Functions
import MathProg.Proofs.Representation.Lines
import MathProg.Proofs.Representation.Equality
import MathProg.Proofs.Representation.RoundTrip
import MathProg.Proofs.Attachment.Problem
import MathProg.Proofs.Attachment.Stages
import MathProg.Proofs.Attachment.History
import MathProg.Proofs.Attachment.Solving
import MathProg.Proofs.Backend.Injection
import MathProg.Proofs.Attachment.Reporting
import MathProg.Proofs.Backend.NodeValue
import MathProg.Proofs.Backend.FeasibleSet
import MathProg.Proofs.Attachment.Takeover
import MathProg.Proofs.Backend.Settings
import MathProg.Proofs.Attachment.Screening
import MathProg.Proofs.Attachment.FailedLoad
import MathProg.Proofs.Backend.Alike
import MathProg.Proofs.Attachment.Adoption
import MathProg.Proofs.Number.Decoding
import MathProg.Proofs.Model.Shape
import MathProg.Proofs.Model.Invariant
import MathProg.Proofs.Model.Revision
import MathProg.Proofs.Expression.Operators
import MathProg.Proofs.Backend.WeakDuality
import MathProg.Proofs.Number.ExactValue
import MathProg.Proofs.Representation.Structural
import MathProg.Proofs.Function.Uniqueness
import MathProg.Proofs.Formula.TreeValue
import MathProg.Proofs.Representation.Accepted
import MathProg.Proofs.Representation.Dimensions
import MathProg.Proofs.Formula.Exponent
import MathProg.Proofs.Representation.Closed
import MathProg.Proofs.Representation.Rejected
import MathProg.Proofs.Model.Atomic
import MathProg.Proofs.Attachment.Capability
import MathProg.Proofs.Function.Composition
import MathProg.Proofs.ConstraintSet.Reshape
import MathProg.Proofs.Attachment.MatrixValue
import MathProg.Proofs.Attachment.ReadBack
import MathProg.Proofs.Attachment.ObjectiveValue
import MathProg.Proofs.Config.Options
import MathProg.Proofs.Representation.Rearranged
import MathProg.Proofs.Function.PointValue
import MathProg.Proofs.Backend.ExactNode
import MathProg.Proofs.Attachment.ExactObjective
import MathProg.Proofs.ConstraintSet.SizeInference
import MathProg.Proofs.Backend.InnerProduct
