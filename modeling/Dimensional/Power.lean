/-!
# Powers

The powers of the library are those of the core library, also in a module that imports an algebraic library
with powers of its own.  So the bounds of a kind and the units of a precision are one term everywhere.
-/

namespace Dimensional

/-- This instance is found before any other one. -/
@[default_instance 20000]
instance (priority := 20000) corePower {α : Type} [NatPow α] : Pow α Nat := instPowNat

end Dimensional
