/-!
# Lexemes

A lexeme is one word of generated shader text: a type name, a qualifier or an
identifier.  The empty word stands for an absent lexeme, for example a stage
variable without interpolation or a block without an instance name.
-/

namespace StageInterface

/-- One word of shader text; the empty word is the absent lexeme. -/
structure Lexeme where
  text : String
deriving DecidableEq, Inhabited, Repr

namespace Lexeme

/-- The lexeme that stands for "none given". -/
def absent : Lexeme := ⟨""⟩

def isAbsent (l : Lexeme) : Bool := l.text.isEmpty

def isPresent (l : Lexeme) : Bool := !l.isAbsent

/-- The lexeme itself, unless it is absent. -/
def present? (l : Lexeme) : Option Lexeme :=
  if l.isAbsent then none else some l

instance : ToString Lexeme := ⟨Lexeme.text⟩

theorem ext_iff {l m : Lexeme} : l = m ↔ l.text = m.text := by
  cases l
  cases m
  simp

theorem isAbsent_iff {l : Lexeme} : l.isAbsent = true ↔ l = absent := by
  simp [isAbsent, absent, ext_iff]

theorem isPresent_iff {l : Lexeme} : l.isPresent = true ↔ l ≠ absent := by
  rw [isPresent, Bool.not_eq_true', ← Bool.not_eq_true, isAbsent_iff]

theorem present?_eq_some_iff {l m : Lexeme} :
    l.present? = some m ↔ l = m ∧ l ≠ absent := by
  unfold present?
  split
  next h => simp [isAbsent_iff.1 h]
  next h => simpa [← isAbsent_iff] using fun _ => h

end Lexeme
end StageInterface
