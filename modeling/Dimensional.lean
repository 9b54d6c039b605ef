import Dimensional.Derive.Derivation
import Dimensional.Proofs.Derive.Declarations
import Dimensional.Proofs.Derive.Arrangement
import Dimensional.Program.Step
import Dimensional.Proofs.Dimension.Expressions
import Dimensional.Proofs.Program.Conversions
import Dimensional.Proofs.Program.Erasure
import Dimensional.Proofs.Program.Homogeneity
import Dimensional.Proofs.Program.Updates
import Dimensional.Proofs.Program.Widening
import Dimensional.Proofs.Exponents.Roots
import Dimensional.Proofs.Quantity.Language
import Dimensional.Proofs.Quantity.Debug
import Dimensional.Proofs.Quantity.Sums
import Dimensional.Proofs.Quantity.Wire
import Dimensional.Quantity.Units
import Dimensional.Proofs.Derive.Relevance
import Dimensional.Proofs.Integer.Bytes
import Dimensional.Proofs.Binary.Values
import Dimensional.Proofs.Quantity.Order
import Dimensional.Proofs.Quantity.PartialOrder
import Dimensional.Proofs.Exponents.Equality
import Dimensional.Proofs.Binary.Rounding
import Dimensional.Proofs.Binary.Shortest
import Dimensional.Proofs.Json.Reals
import Dimensional.Proofs.Quantity.Tagged
import Dimensional.Proofs.Quantity.Reals
import Dimensional.Proofs.Binary.FewestDigits
import Dimensional.Proofs.Quantity.Fields
import Dimensional.Proofs.Derive.ExponentTypes
import Dimensional.Proofs.Derive.Levels.Items
