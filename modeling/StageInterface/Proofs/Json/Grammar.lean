import Mathlib.Data.List.Basic
import StageInterface.Json.ReadFault

/-!
# JSON texts

Which texts are well-formed JSON and what they stand for, without reference to
any reader.  A text is put together from phrases: a value, a value with blanks
around it, a field with its key, and what may follow the first element of a
sequence or the first field of an object, each behind a comma (`Spells`).

Strings stand for characters.  An escape with four digits spells a character of
the basic plane, and a pair of them one above it by its two halves; as there is
no character for half of a pair, an escape that spells one alone is not covered.
-/

namespace StageInterface
namespace Json

/-- What a JSON text stands for.  A number is kept as it is written, and the fields of an object as
they follow each other, repeated ones included. -/
inductive Value
  | null
  | boolean (b : Bool)
  | number (literal : List Char)
  | text (s : String)
  | sequence (l : List Value)
  | object (l : List (String × Value))

/-- Spaces, tabs, line feeds and carriage returns, any number of them. -/
def IsBlanks
    (s : List Char) : Prop :=
  ∀ c ∈ s, c ∈ [' ', '\t', '\n', '\r']

instance (s : List Char) : Decidable (IsBlanks s) :=
  decidable_of_iff (s.all (fun c => [' ', '\t', '\n', '\r'].contains c) = true) (by simp [IsBlanks])

section Strings

/-- The hexadecimal digits with their numbers, in both cases. -/
def hexDigits : List (Char × Nat) :=
  "0123456789abcdef".toList.zipIdx ++ "0123456789ABCDEF".toList.zipIdx

/-- Four hexadecimal digits spell a number. -/
inductive SpellsUnit :
    List Char → Nat → Prop
  | mk
      {a b c d : Char}
      {i j k l : Nat}
      (ha : (a, i) ∈ hexDigits)
      (hb : (b, j) ∈ hexDigits)
      (hc : (c, k) ∈ hexDigits)
      (hd : (d, l) ∈ hexDigits) :
      SpellsUnit [a, b, c, d] (((i * 16 + j) * 16 + k) * 16 + l)

/-- The escapes of one letter, and the character that each stands for. -/
def shortEscapes : List (Char × Char) :=
  [('"', '"'), ('\\', '\\'), ('/', '/'), ('b', '\x08'), ('f', '\x0c'), ('n', '\n'), ('r', '\r'),
    ('t', '\t')]

/-- The halves of a character above the basic plane. -/
def halves
    (c : Char) : Nat × Nat :=
  (0xD800 + (c.toNat - 0x10000) / 0x400, 0xDC00 + (c.toNat - 0x10000) % 0x400)

/-- The text between two quotes, and the characters that it stands for. -/
inductive SpellsText :
    List Char → List Char → Prop
  | nil :
      SpellsText [] []
  | plain
      {c : Char}
      {t s : List Char}
      (hquote : c ≠ '"')
      (hescape : c ≠ '\\')
      (hcontrol : ' ' ≤ c)
      (h : SpellsText t s) :
      SpellsText (c :: t) (c :: s)
  | short
      {e c : Char}
      {t s : List Char}
      (he : (e, c) ∈ shortEscapes)
      (h : SpellsText t s) :
      SpellsText ('\\' :: e :: t) (c :: s)
  | unit
      {c : Char}
      {digits t s : List Char}
      (hdigits : SpellsUnit digits c.toNat)
      (h : SpellsText t s) :
      SpellsText ('\\' :: 'u' :: digits ++ t) (c :: s)
  | pair
      {c : Char}
      {digits digits' t s : List Char}
      (hc : 0x10000 ≤ c.toNat)
      (hdigits : SpellsUnit digits (halves c).1)
      (hdigits' : SpellsUnit digits' (halves c).2)
      (h : SpellsText t s) :
      SpellsText ('\\' :: 'u' :: digits ++ '\\' :: 'u' :: digits' ++ t) (c :: s)

end Strings

section Numbers

/-- Decimal digits, at least one. -/
def IsDigits
    (s : List Char) : Prop :=
  s ≠ [] ∧ ∀ c ∈ s, c.isDigit = true

instance (s : List Char) : Decidable (IsDigits s) :=
  decidable_of_iff (s ≠ [] ∧ s.all Char.isDigit = true) (by rw [IsDigits, List.all_eq_true])

/-- The part of a number behind its point, if there is one. -/
inductive IsFraction :
    List Char → Prop
  | absent :
      IsFraction []
  | present
      {s : List Char}
      (h : IsDigits s) :
      IsFraction ('.' :: s)

/-- The exponent of a number, if there is one. -/
inductive IsExponent :
    List Char → Prop
  | absent :
      IsExponent []
  | present
      {mark : Char}
      {sign s : List Char}
      (hmark : mark = 'e' ∨ mark = 'E')
      (hsign : sign ∈ [[], ['+'], ['-']])
      (h : IsDigits s) :
      IsExponent (mark :: sign ++ s)

/-- A number: a whole one in decimal with or without a sign, a fraction and an exponent. -/
inductive IsNumber :
    List Char → Prop
  | mk
      {sign fraction exponent : List Char}
      (hsign : sign ∈ [[], ['-']])
      (n : Nat)
      (hfraction : IsFraction fraction)
      (hexponent : IsExponent exponent) :
      IsNumber (sign ++ Nat.toDigits 10 n ++ fraction ++ exponent)

end Numbers

/-- A part of a JSON text, by what it stands for. -/
inductive Phrase
  | value (v : Value)
  /-- A value with blanks around it. -/
  | element (v : Value)
  | field (key : String) (v : Value)
  /-- Elements, each behind a comma. -/
  | elements (l : List Value)
  /-- Fields, each behind a comma. -/
  | fields (l : List (String × Value))

/-- The texts of each phrase. -/
inductive Spells :
    Phrase → List Char → Prop
  | null :
      Spells (.value .null) ['n', 'u', 'l', 'l']
  | boolean
      (b : Bool) :
      Spells (.value (.boolean b)) (if b then ['t', 'r', 'u', 'e'] else ['f', 'a', 'l', 's', 'e'])
  | number
      {literal : List Char}
      (h : IsNumber literal) :
      Spells (.value (.number literal)) literal
  | text
      {t : List Char}
      {s : String}
      (h : SpellsText t s.toList) :
      Spells (.value (.text s)) ('"' :: t ++ ['"'])
  | emptySequence
      {b : List Char}
      (hb : IsBlanks b) :
      Spells (.value (.sequence [])) ('[' :: b ++ [']'])
  | sequence
      {v : Value}
      {l : List Value}
      {t u : List Char}
      (h : Spells (.element v) t)
      (hl : Spells (.elements l) u) :
      Spells (.value (.sequence (v :: l))) ('[' :: t ++ u ++ [']'])
  | emptyObject
      {b : List Char}
      (hb : IsBlanks b) :
      Spells (.value (.object [])) ('\x7b' :: b ++ ['\x7d'])
  | object
      {key : String}
      {v : Value}
      {l : List (String × Value)}
      {t u : List Char}
      (h : Spells (.field key v) t)
      (hl : Spells (.fields l) u) :
      Spells (.value (.object ((key, v) :: l))) ('\x7b' :: t ++ u ++ ['\x7d'])
  | element
      {v : Value}
      {b t b' : List Char}
      (hb : IsBlanks b)
      (h : Spells (.value v) t)
      (hb' : IsBlanks b') :
      Spells (.element v) (b ++ t ++ b')
  | field
      {key : String}
      {v : Value}
      {b k b' t : List Char}
      (hb : IsBlanks b)
      (hk : SpellsText k key.toList)
      (hb' : IsBlanks b')
      (h : Spells (.element v) t) :
      Spells (.field key v) (b ++ '"' :: k ++ '"' :: b' ++ ':' :: t)
  | noElements :
      Spells (.elements []) []
  | moreElements
      {v : Value}
      {l : List Value}
      {t u : List Char}
      (h : Spells (.element v) t)
      (hl : Spells (.elements l) u) :
      Spells (.elements (v :: l)) (',' :: t ++ u)
  | noFields :
      Spells (.fields []) []
  | moreFields
      {key : String}
      {v : Value}
      {l : List (String × Value)}
      {t u : List Char}
      (h : Spells (.field key v) t)
      (hl : Spells (.fields l) u) :
      Spells (.fields ((key, v) :: l)) (',' :: t ++ u)

end Json
end StageInterface
