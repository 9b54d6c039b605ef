import Dimensional.Dimension.Basic

/-!
# Named dimensions

The vectors of mechanics by their usual names. The value on each axis is its exponent, in basis order.

* `Catalogue.eq_of_mem_derived` — the table agrees with the algebra.
-/

namespace Dimensional.Catalogue

open Dimension (product quotient root)

/-! ### Vectors on the four physical axes -/

/-- The vector with these exponents and nothing on the reserved axes. -/
def physical (time mass length angle : Int) : Dimension :=
  .vector ⟨time, mass, length, angle, 0, 0, 0, 0⟩

def dimensionless := physical 0 0 0 0
def time := physical 1 0 0 0
def mass := physical 0 1 0 0
def length := physical 0 0 1 0
def angle := physical 0 0 0 1
def area := physical 0 0 2 0
def volume := physical 0 0 3 0
def density := physical 0 1 (-3) 0
def speed := physical (-1) 0 1 0
def accel := physical (-2) 0 1 0
def angSpeed := physical (-1) 0 0 1
def angAccel := physical (-2) 0 0 1
def force := physical (-2) 1 1 0
def stiffness := physical (-2) 1 0 0
def viscosity := physical (-1) 1 0 0
def torque := physical (-2) 1 2 0
def angStiffness := physical (-2) 1 2 (-1)
def angViscosity := physical (-1) 1 2 (-1)
def momentOfInertia := physical 0 1 2 0

/-! ### The table agrees with the algebra -/

/-- The derived vectors, each beside the product, quotient or root that it stands for. -/
def derived : List (Dimension × Dimension) :=
  [(area, product length length),
   (volume, product area length),
   (density, quotient mass volume),
   (speed, quotient length time),
   (accel, quotient speed time),
   (angSpeed, quotient angle time),
   (angAccel, quotient angSpeed time),
   (force, product mass accel),
   (stiffness, quotient force length),
   (viscosity, quotient force speed),
   (torque, product force length),
   (angStiffness, quotient torque angle),
   (angViscosity, quotient torque angSpeed),
   (momentOfInertia, product mass area),
   (length, root area)]

theorem eq_of_mem_derived : ∀ row ∈ derived, row.1 = row.2 := by decide

end Dimensional.Catalogue
