import StageInterface.Decimal.Shortest

/-!
# Written decimals

Where the point of a decimal stands and when an exponent is written.  The
choices are one record, so that a format is a value.
-/

namespace StageInterface
namespace Decimal

/-- The choices of a number format, by the position of the point relative to the first digit. -/
structure Format where
  /-- The point stands at most this many digits behind the start. -/
  lastPosition : Int
  /-- The point stands more than this many digits before the start. -/
  firstPosition : Int
  /-- What stands behind the digits of a whole number. -/
  wholeMark : String
  /-- What stands before the sign of the exponent. -/
  exponentMark : String
  /-- The sign of an exponent that is not negative. -/
  plusSign : String

/-- Numbers are positional from `0.00001` to below `10 ^ 16`, a whole number shows one decimal
place, and every exponent has a sign. -/
def Format.plain : Format := ⟨16, -5, ".0", "e", "+"⟩

def zeros (n : Nat) : String := String.ofList (List.replicate n '0')

/-- The digits with the point behind the first `n` of them. -/
def pointed (digits : String) (n : Nat) : String :=
  String.ofList (digits.toList.take n) ++ "." ++ String.ofList (digits.toList.drop n)

/-- Writes an exponent with its mark and its sign. -/
def Format.writeExponent (f : Format) (n : Int) : String :=
  f.exponentMark ++ (if 0 ≤ n then f.plusSign else "") ++ toString n

def Format.write (f : Format) (d : Scaled) : String :=
  let digits := toString d.digits
  let position : Int := digits.length + d.exponent
  if 0 ≤ d.exponent ∧ position ≤ f.lastPosition then
    digits ++ zeros d.exponent.toNat ++ f.wholeMark
  else if 0 < position ∧ position ≤ f.lastPosition then
    pointed digits position.toNat
  else if f.firstPosition < position ∧ position ≤ 0 then
    "0." ++ zeros (-position).toNat ++ digits
  else
    (if digits.length = 1 then digits else pointed digits 1) ++
      f.writeExponent (position - 1)

/-- Writes a finite double by its shortest decimal. -/
def Format.writeFloat (f : Format) (x : Float) : String :=
  (if isNegative x then "-" else "") ++ f.write (shortest x)

end Decimal
end StageInterface
