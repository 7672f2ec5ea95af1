/-!
The floating-point number that a decimal stands for.
-/
namespace Apidoc.Decimal

/-- The nonnegative number `digits · 10^exponent`. Powers of ten beyond all floating-point numbers
are not computed. -/
def ofDecimal (digits : Nat) (exponent : Int) : Float :=
  let magnitude : Int := (Nat.toDigits 10 digits).length + exponent
  if digits = 0 || magnitude < -400 then 0
  else if magnitude > 400 then 1 / 0
  else Float.ofScientific digits (exponent < 0) exponent.natAbs

end Apidoc.Decimal
