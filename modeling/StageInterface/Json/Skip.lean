import StageInterface.Json.Number
import StageInterface.Json.Text

/-!
# Skipped values

A value whose content does not matter is skipped: it has to be well formed, and
nothing else is asked of it.  Every second step leaves a shorter text, so twice
the length of the text bounds how deep values are followed.
-/

namespace StageInterface
namespace Json

/-- Skips the key of a field and the colon behind it. -/
def skipKey (s : List Char) : Reading (List Char) := do
  match skipBlanks s with
  | [] => .error .truncated
  | '"' :: s => readColon (← skipText s)
  | _ => .error .malformed

mutual

def skipValueWithin : (room : Nat) → List Char → Reading (List Char)
  | 0, _ => .error .malformed
  | room + 1, s =>
      match skipBlanks s with
      | [] => .error .truncated
      | 'n' :: s => readWord ['u', 'l', 'l'] s
      | 't' :: s => readWord ['r', 'u', 'e'] s
      | 'f' :: s => readWord ['a', 'l', 's', 'e'] s
      | '"' :: s => skipText s
      | '[' :: s =>
          match skipBlanks s with
          | ']' :: s => .ok s
          | [] => .error .truncated
          | s => skipElementsWithin room s
      | '\x7b' :: s =>
          match skipBlanks s with
          | '\x7d' :: s => .ok s
          | [] => .error .truncated
          | s => skipFieldsWithin room s
      | c :: s => if c = '-' ∨ c.isDigit then skipNumber (c :: s) else .error .malformed

/-- Skips at least one element and the bracket that closes the sequence. -/
def skipElementsWithin : (room : Nat) → List Char → Reading (List Char)
  | 0, _ => .error .malformed
  | room + 1, s => do
      let s ← skipValueWithin room s
      match skipBlanks s with
      | [] => .error .truncated
      | ',' :: s => skipElementsWithin room s
      | ']' :: s => .ok s
      | _ => .error .malformed

/-- Skips at least one field and the brace that closes the object. -/
def skipFieldsWithin : (room : Nat) → List Char → Reading (List Char)
  | 0, _ => .error .malformed
  | room + 1, s => do
      let s ← skipKey s
      let s ← skipValueWithin room s
      match skipBlanks s with
      | [] => .error .truncated
      | ',' :: s => skipFieldsWithin room s
      | '\x7d' :: s => .ok s
      | _ => .error .malformed

end

def skipValue (s : List Char) : Reading (List Char) :=
  skipValueWithin (2 * s.length + 1) s

end Json
end StageInterface
