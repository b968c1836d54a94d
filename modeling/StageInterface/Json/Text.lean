import StageInterface.Json.ReadFault

/-!
# Strings

The text between double quotes.  A read string gives its characters; its
`\u` escapes must spell whole characters, those above the basic plane as a
leading and a trailing surrogate in a row.  A skipped string only has to be
well formed.
-/

namespace StageInterface
namespace Json

def hexDigit? (c : Char) : Option Nat :=
  if c.isDigit then some (c.toNat - '0'.toNat)
  else if 'a' ≤ c ∧ c ≤ 'f' then some (c.toNat - 'a'.toNat + 10)
  else if 'A' ≤ c ∧ c ≤ 'F' then some (c.toNat - 'A'.toNat + 10)
  else none

/-- The number that four hexadecimal digits spell. -/
def codeUnit? (a b c d : Char) : Option Nat := do
  let a ← hexDigit? a
  let b ← hexDigit? b
  let c ← hexDigit? c
  let d ← hexDigit? d
  pure (((a * 16 + b) * 16 + c) * 16 + d)

/-- The character of a one-letter escape. -/
def shortEscape? : Char → Option Char
  | '"' => some '"'
  | '\\' => some '\\'
  | '/' => some '/'
  | 'b' => some '\x08'
  | 'f' => some '\x0c'
  | 'n' => some '\n'
  | 'r' => some '\r'
  | 't' => some '\t'
  | _ => none

/-- The first half of a character above the basic plane. -/
def isLeading (n : Nat) : Bool := 0xD800 ≤ n && n ≤ 0xDBFF

/-- The second half of a character above the basic plane. -/
def isTrailing (n : Nat) : Bool := 0xDC00 ≤ n && n ≤ 0xDFFF

/-- The character of two halves. -/
def joinHalves (leading trailing : Nat) : Char :=
  Char.ofNat (0x10000 + (leading - 0xD800) * 0x400 + (trailing - 0xDC00))

/-- Fewer than four digits are left: the text ends too early, unless bytes enough are there. -/
def brokenDigits (s : List Char) : ReadFault :=
  if (String.ofList s).utf8ByteSize < 4 then .truncated else .malformed

/-- Reads string text up to the closing quote.  `half` is a leading surrogate that waits for its
trailing one, and `read` what has been read so far, last character first. -/
def readTextFrom (half : Option Nat) (read : List Char) :
    List Char → Reading (String × List Char)
  | [] => .error .truncated
  | '\\' :: [] => .error .truncated
  | '\\' :: 'u' :: a :: b :: c :: d :: s =>
      match codeUnit? a b c d, half with
      | none, _ => .error .malformed
      | some n, none =>
          if isTrailing n then .error .malformed
          else if isLeading n then readTextFrom (some n) read s
          else readTextFrom none (Char.ofNat n :: read) s
      | some n, some m =>
          if isTrailing n then readTextFrom none (joinHalves m n :: read) s
          else .error .malformed
  | '\\' :: 'u' :: s => .error (brokenDigits s)
  | '\\' :: e :: s =>
      match shortEscape? e, half with
      | some c, none => readTextFrom none (c :: read) s
      | _, _ => .error .malformed
  | c :: s =>
      if half.isSome then .error .malformed
      else if c = '"' then .ok (String.ofList read.reverse, s)
      else if c < ' ' then .error .malformed
      else readTextFrom none (c :: read) s

/-- Reads string text behind the opening quote. -/
def readText (s : List Char) : Reading (String × List Char) := readTextFrom none [] s

/-- Skips string text behind the opening quote. -/
def skipText : List Char → Reading (List Char)
  | [] => .error .truncated
  | '\\' :: [] => .error .truncated
  | '\\' :: 'u' :: a :: b :: c :: d :: s =>
      if (codeUnit? a b c d).isSome then skipText s else .error .malformed
  | '\\' :: 'u' :: s => .error (brokenDigits s)
  | '\\' :: e :: s => if (shortEscape? e).isSome then skipText s else .error .malformed
  | c :: s =>
      if c = '"' then .ok s
      else if c < ' ' then .error .malformed
      else skipText s

end Json
end StageInterface
