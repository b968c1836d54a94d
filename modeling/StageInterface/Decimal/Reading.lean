/-!
# Doubles from decimals

The double that a decimal `significand * 10 ^ exponent` is read as.  The
significand is rounded to a double and then scaled by powers of ten, so the
last digit may differ from that of the nearest double.
-/

namespace StageInterface
namespace Decimal

/-- The largest power of ten among the doubles. -/
def maxPower : Nat := 308

/-- The double nearest to a power of ten. -/
def powerOfTen (n : Nat) : Float := Float.ofScientific 1 false n

/-- Divides by a power of ten, in steps that are doubles themselves. -/
def scaleDown (x : Float) (n : Nat) : Float :=
  if n ≤ maxPower then x / powerOfTen n
  else if x == 0 then x
  else scaleDown (x / powerOfTen maxPower) (n - maxPower)
termination_by n
decreasing_by
  simp only [maxPower] at *
  omega

/-- The double of a decimal, unless it is too large for any. -/
def toFloat? (significand : Nat) (exponent : Int) : Option Float :=
  let x := Float.ofNat significand
  if exponent < 0 then some (scaleDown x exponent.natAbs)
  else if exponent.natAbs ≤ maxPower then
    let y := x * powerOfTen exponent.natAbs
    if y.isInf then none else some y
  else if x == 0 then some x
  else none

end Decimal
end StageInterface
