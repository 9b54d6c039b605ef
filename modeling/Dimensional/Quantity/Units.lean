import Dimensional.Quantity.Basic

/-!
# SI units

The units under which quantities of the usual dimensions are given. A unit names a dimension; the
scalar is floating point in the precision of the build.
-/

namespace Dimensional.Units

/-- Every unit with its dimension. -/
def all : List (String × Dimension) :=
  [("Unitless", Catalogue.dimensionless),
   ("Seconds", Catalogue.time),
   ("Kilograms", Catalogue.mass),
   ("Meters", Catalogue.length),
   ("Radians", Catalogue.angle),
   ("SquareMeters", Catalogue.area),
   ("CubicMeters", Catalogue.volume),
   ("KilogramsPerCubicMeter", Catalogue.density),
   ("MetersPerSecond", Catalogue.speed),
   ("MetersPerSecondSquared", Catalogue.accel),
   ("RadiansPerSecond", Catalogue.angSpeed),
   ("RadiansPerSecondSquared", Catalogue.angAccel),
   ("Newtons", Catalogue.force),
   ("NewtonsPerMeter", Catalogue.stiffness),
   ("NewtonSecondsPerMeter", Catalogue.viscosity),
   ("KilogramsPerSecond", Catalogue.viscosity),
   ("NewtonMeters", Catalogue.torque),
   ("NewtonMetersPerRadian", Catalogue.angStiffness),
   ("NewtonMeterSecondsPerRadian", Catalogue.angViscosity),
   ("KilogramMetersSquared", Catalogue.momentOfInertia)]

/-- The dimension that a unit measures. -/
def dimension? (unit : String) : Option Dimension := all.lookup unit

/-- A value in double precision as a quantity in the precision of the build. -/
def measure (d : Dimension) (p : Precision) (a : Binary .double) : Quantity d (.float p) :=
  ⟨Binary.convert p a⟩

/-- The two names of linear damping stand for one dimension. -/
example : dimension? "NewtonSecondsPerMeter" = dimension? "KilogramsPerSecond" := by decide

end Dimensional.Units
