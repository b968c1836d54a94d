import StageInterface.Decimal.Reading
import StageInterface.Json.ReadFault

/-!
# Numbers

A number without fraction and exponent is an integer as long as it fits into 64
bits; every other number is a double.  The digits of a double are taken as long
as the number they spell fits into 64 bits; later ones only count as places.

A read number must not be too large for a double.  A skipped number only has to
be well formed.
-/

namespace StageInterface
namespace Json

inductive Number
  | integer (value : Int)
  | real (value : Float)

def maxSignificand : Nat := 18446744073709551615

/-- The largest exponent that is read digit by digit. -/
def maxExponent : Nat := 2147483647

def digit? (c : Char) : Option Nat :=
  if c.isDigit then some (c.toNat - '0'.toNat) else none

def startsWithDigit : List Char → Bool
  | [] => false
  | c :: _ => c.isDigit

/-- Appends the leading digits of a text to a number, as long as it is at most `most`.  Gives the
number, how many digits were taken and the text behind them. -/
def takeDigits (most : Nat) (n : Nat) : List Char → Nat × Nat × List Char
  | [] => (n, 0, [])
  | c :: s =>
      match digit? c with
      | none => (n, 0, c :: s)
      | some d =>
          if n * 10 + d ≤ most then
            let (m, count, rest) := takeDigits most (n * 10 + d) s
            (m, count + 1, rest)
          else (n, 0, c :: s)

/-- The number of digits at the start of a text, and the text behind them. -/
def spanDigits (s : List Char) : Nat × List Char :=
  ((s.takeWhile Char.isDigit).length, s.dropWhile Char.isDigit)

/-- The double of a decimal with a sign. -/
def signed (negative : Bool) (x : Float) : Float := if negative then -x else x

/-- A double, unless it is too large for one. -/
def realOf (negative : Bool) (significand : Nat) (exponent : Int) (s : List Char) :
    Reading (Number × List Char) :=
  match Decimal.toFloat? significand exponent with
  | none => .error .malformed
  | some x => .ok (.real (signed negative x), s)

/-- Splits off the sign of an exponent: whether it is negative, and the text behind it. -/
def exponentSign : List Char → Bool × List Char
  | '+' :: s => (false, s)
  | '-' :: s => (true, s)
  | s => (false, s)

/-- Reads an exponent behind its mark and finishes the double. -/
def readExponent (negative : Bool) (significand : Nat) (exponent : Int) (s : List Char) :
    Reading (Number × List Char) :=
  let (down, s) := exponentSign s
  if s.isEmpty then .error .truncated
  else if !startsWithDigit s then .error .malformed
  else
    let (n, _, rest) := takeDigits maxExponent 0 s
    if startsWithDigit rest then
      -- The exponent is beyond any double.
      if significand ≠ 0 ∧ !down then .error .malformed
      else .ok (.real (signed negative 0), (spanDigits rest).2)
    else realOf negative significand (if down then exponent - n else exponent + n) rest

/-- Finishes a double at an exponent mark or without one. -/
def finishReal (negative : Bool) (significand : Nat) (exponent : Int) :
    List Char → Reading (Number × List Char)
  | 'e' :: s => readExponent negative significand exponent s
  | 'E' :: s => readExponent negative significand exponent s
  | s => realOf negative significand exponent s

/-- Reads a fraction behind the point and finishes the double. -/
def readFraction (negative : Bool) (significand : Nat) (exponent : Int) (s : List Char) :
    Reading (Number × List Char) :=
  let (n, count, rest) := takeDigits maxSignificand significand s
  if startsWithDigit rest then
    finishReal negative n (exponent - count) (spanDigits rest).2
  else if count = 0 then
    if rest.isEmpty then .error .truncated else .error .malformed
  else finishReal negative n (exponent - count) rest

/-- The integer of a significand; zero with a sign, and what does not fit, are doubles. -/
def wholeNumber (negative : Bool) (significand : Nat) : Number :=
  if !negative then .integer significand
  else if significand = 0 ∨ significand > Nat.pow 2 63 then .real (-(Float.ofNat significand))
  else .integer (-(significand : Int))

/-- Reads what follows the integer digits. -/
def finishNumber (negative : Bool) (significand : Nat) (exponent : Nat) :
    List Char → Reading (Number × List Char)
  | '.' :: s => readFraction negative significand exponent s
  | 'e' :: s => readExponent negative significand exponent s
  | 'E' :: s => readExponent negative significand exponent s
  | s =>
      if exponent = 0 then .ok (wholeNumber negative significand, s)
      else realOf negative significand exponent s

/-- Reads a number behind its sign. -/
def readUnsigned (negative : Bool) : List Char → Reading (Number × List Char)
  | [] => .error .truncated
  | '0' :: s =>
      if startsWithDigit s then .error .malformed else finishNumber negative 0 0 s
  | c :: s =>
      if !c.isDigit then .error .malformed
      else
        let (n, _, rest) := takeDigits maxSignificand 0 (c :: s)
        let (places, rest) := spanDigits rest
        finishNumber negative n places rest

def readNumber : List Char → Reading (Number × List Char)
  | '-' :: s => readUnsigned true s
  | s => readUnsigned false s

def skipDigits (s : List Char) : Reading (List Char) :=
  if startsWithDigit s then .ok (spanDigits s).2 else .error .malformed

def skipExponent : List Char → Reading (List Char)
  | 'e' :: s => skipDigits (exponentSign s).2
  | 'E' :: s => skipDigits (exponentSign s).2
  | s => .ok s

def skipFraction : List Char → Reading (List Char)
  | '.' :: s => skipDigits s
  | s => .ok s

/-- Skips the integer digits; a leading zero stands alone. -/
def skipInteger : List Char → Reading (List Char)
  | '0' :: s => if startsWithDigit s then .error .malformed else .ok s
  | s => skipDigits s

def skipUnsigned (s : List Char) : Reading (List Char) := do
  let s ← skipInteger s
  let s ← skipFraction s
  skipExponent s

def skipNumber : List Char → Reading (List Char)
  | '-' :: s => skipUnsigned s
  | s => skipUnsigned s

end Json
end StageInterface
