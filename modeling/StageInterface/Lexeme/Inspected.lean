import StageInterface.Lexeme
import StageInterface.Text.Quoted

/-!
# Lexemes for inspection

A text that shows exactly which lexeme is meant, the absent one included.
-/

namespace StageInterface

/-- The lexeme in a form that can be read by eye without doubt. -/
def Lexeme.inspected (l : Lexeme) : String :=
  match l.present? with
  | some l => "Key(" ++ Text.quoted l.text ++ ")"
  | none => "Key(null)"

end StageInterface
