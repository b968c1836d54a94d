import StageInterface.Json.Number
import StageInterface.Json.Text

/-!
# Typed reading

Reading a value that has to be of a certain type: a 32-bit number, a truth
value, nothing, or one of some names.  When something else stands in the text,
its beginning is read as far as needed to say what it is.
-/

namespace StageInterface
namespace Json

/-- Reads what stands at the start of a text, as far as needed to say what it is. -/
def readFound : List Char → Reading Found
  | [] => .error .truncated
  | 'n' :: s => do
      let _ ← readWord ['u', 'l', 'l'] s
      pure .null
  | 't' :: s => do
      let _ ← readWord ['r', 'u', 'e'] s
      pure (.boolean true)
  | 'f' :: s => do
      let _ ← readWord ['a', 'l', 's', 'e'] s
      pure (.boolean false)
  | '"' :: s => do
      let (text, _) ← readText s
      pure (.text text)
  | '[' :: _ => pure .sequence
  | '\x7b' :: _ => pure .map
  | c :: s =>
      if c = '-' ∨ c.isDigit then do
        match ← readNumber (c :: s) with
        | (.integer i, _) => pure (.integer i)
        | (.real x, _) => pure (.real x)
      else .error .malformed

/-- Refuses what stands at the start of a text. -/
def refuse {α : Type} (expected : String) (s : List Char) : Reading α := do
  let found ← readFound s
  .error (.mismatch (.type found expected))

def readNatural32 (s : List Char) : Reading (UInt32 × List Char) :=
  match skipBlanks s with
  | [] => .error .truncated
  | c :: s =>
      if c = '-' ∨ c.isDigit then do
        match ← readNumber (c :: s) with
        | (.integer i, rest) =>
            if 0 ≤ i ∧ i.toNat < UInt32.size then .ok (UInt32.ofNat i.toNat, rest)
            else .error (.mismatch (.range i "u32"))
        | (.real x, _) => .error (.mismatch (.type (.real x) "u32"))
      else refuse "u32" (c :: s)

def readBoolean (s : List Char) : Reading (Bool × List Char) :=
  match skipBlanks s with
  | [] => .error .truncated
  | 't' :: s => do
      let rest ← readWord ['r', 'u', 'e'] s
      pure (true, rest)
  | 'f' :: s => do
      let rest ← readWord ['a', 'l', 's', 'e'] s
      pure (false, rest)
  | s => refuse "a boolean" s

/-- Reads the value that holds nothing. -/
def readNull (s : List Char) : Reading (List Char) :=
  match skipBlanks s with
  | [] => .error .truncated
  | 'n' :: s => readWord ['u', 'l', 'l'] s
  | s => refuse "unit" s

/-- The choice of a name among named choices. -/
def choose {α : Type} (choices : List (String × α)) (name : String) : Reading α :=
  match choices.lookup name with
  | some a => .ok a
  | none => .error (.mismatch (.variant name (choices.map Prod.fst)))

/-- Reads one of some names: a string, or an object that holds nothing under the name.  Nothing
but a string stands for a name, also as a key. -/
def readChoice {α : Type} (choices : List (String × α)) (s : List Char) :
    Reading (α × List Char) :=
  match skipBlanks s with
  | [] => .error .truncated
  | '"' :: s => do
      let (name, rest) ← readText s
      let a ← choose choices name
      pure (a, rest)
  | '\x7b' :: s =>
      match skipBlanks s with
      | [] => .error .truncated
      | '"' :: s => do
          let (name, rest) ← readText s
          let a ← choose choices name
          let rest ← readColon rest
          let rest ← readNull rest
          match skipBlanks rest with
          | [] => .error .truncated
          | '\x7d' :: rest => pure (a, rest)
          | _ => .error .malformed
      | _ => .error .malformed
  | _ => .error .malformed

/-- The value of a whole text: nothing but blanks may follow it. -/
def readWhole {α : Type} (read : List Char → Reading (α × List Char)) (text : String) :
    Reading α := do
  let (a, rest) ← read text.toList
  if (skipBlanks rest).isEmpty then pure a else .error .malformed

end Json
end StageInterface
