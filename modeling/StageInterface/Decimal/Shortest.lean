/-!
# Shortest decimals

The decimal with the fewest digits that reads back as a given binary
floating-point number, and the nearest of those to the number.

A positive double stands for every real that rounds to it: an interval around
`mantissa * 2 ^ exponent`, which contains its ends exactly when the mantissa is
even.  The grids of multiples of powers of ten are tried from the coarsest on,
and the first one with a point in the interval gives the digits.
-/

namespace StageInterface
namespace Decimal

/-- The reals between `low` and `high` times `2 ^ exponent`, which round to `mid` times the same. -/
structure Interval where
  low : Nat
  mid : Nat
  high : Nat
  exponent : Int
  closed : Bool

/-- A decimal `digits * 10 ^ exponent`. -/
structure Scaled where
  digits : Nat
  exponent : Int

/-- The left side of the comparison of `c * 10 ^ k` with `n * 2 ^ q`, cleared of fractions. -/
def decimalSide (c : Nat) (k q : Int) : Nat := c * Nat.pow 10 k.toNat * Nat.pow 2 (-q).toNat

/-- The right side of the comparison of `c * 10 ^ k` with `n * 2 ^ q`, cleared of fractions. -/
def binarySide (n : Nat) (k q : Int) : Nat := n * Nat.pow 2 q.toNat * Nat.pow 10 (-k).toNat

namespace Interval

/-- The interval of a positive double, from the two fields of its bits below the sign. -/
def ofFields (biased fraction : Nat) : Interval :=
  let mantissa := if biased = 0 then fraction else fraction + Nat.pow 2 52
  let exponent : Int := if biased = 0 then -1074 else (biased : Int) - 1075
  -- Below a power of two the doubles lie twice as dense.
  let gap := if fraction = 0 && biased > 1 then 1 else 2
  ⟨4 * mantissa - gap, 4 * mantissa, 4 * mantissa + 2, exponent - 2, mantissa % 2 = 0⟩

/-- Tells whether `c * 10 ^ k` lies in the interval. -/
def contains (i : Interval) (k : Int) (c : Nat) : Bool :=
  let x := decimalSide c k i.exponent
  let low := binarySide i.low k i.exponent
  let high := binarySide i.high k i.exponent
  if i.closed then low ≤ x && x ≤ high else low < x && x < high

/-- The last multiple of `10 ^ k` that is not above the middle. -/
def below (i : Interval) (k : Int) : Nat :=
  binarySide i.mid k i.exponent / decimalSide 1 k i.exponent

/-- The multiple of `10 ^ k` in the interval that is nearest to the middle; of two equally near
ones the even one. -/
def nearest? (i : Interval) (k : Int) : Option Nat :=
  let c := i.below k
  match i.contains k c, i.contains k (c + 1) with
  | false, false => none
  | true, false => some c
  | false, true => some (c + 1)
  | true, true =>
      let half := decimalSide (2 * c + 1) k i.exponent
      let middle := binarySide (2 * i.mid) k i.exponent
      if middle < half then some c
      else if half < middle then some (c + 1)
      else if c % 2 = 0 then some c
      else some (c + 1)

/-- The first grid, from `10 ^ 309` down, with a point in the interval, and that point. -/
def shortest (i : Interval) : Scaled :=
  ((List.range 640).findSome? fun (j : Nat) =>
    let k : Int := 309 - (j : Int)
    (i.nearest? k).map (fun c => ⟨c, k⟩)).getD ⟨0, 0⟩

end Interval

/-- The shortest decimal of the size of a finite double. -/
def shortest (x : Float) : Scaled :=
  let bits := x.toBits.toNat % Nat.pow 2 63
  if bits = 0 then ⟨0, 0⟩
  else (Interval.ofFields (bits / Nat.pow 2 52) (bits % Nat.pow 2 52)).shortest

/-- The sign bit of a double, set also for the negative zero. -/
def isNegative (x : Float) : Bool := x.toBits.toNat ≥ Nat.pow 2 63

end Decimal
end StageInterface
