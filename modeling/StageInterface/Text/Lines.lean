/-!
# Lines

Text as a list of lines, each ended by a newline.  A newline at the very end
ends the last line and does not start another one.

**Results.**
* `linesOf_newline`: a newline separates the lines before it from those after it.
-/

namespace StageInterface
namespace Text

/-- The lines of a text; `line` holds, last character first, what the current line has so far. -/
def linesFrom (line : List Char) : List Char → List (List Char)
  | [] => if line.isEmpty then [] else [line.reverse]
  | c :: s =>
      if c = '\n' then line.reverse :: linesFrom [] s else linesFrom (c :: line) s

/-- The lines of a text, without the newlines that end them. -/
def linesOf (s : List Char) : List (List Char) := linesFrom [] s

/-- The number of lines of a text. -/
def lineCount (s : String) : Nat := (linesOf s.toList).length

/-- The text without the newlines at its end. -/
def trimNewlines (s : String) : String :=
  String.ofList (s.toList.reverse.dropWhile (· = '\n')).reverse

/-- A newline separates the lines before it from those after it. -/
theorem linesOf_newline (s t : List Char) :
    linesOf (s ++ '\n' :: t) = linesOf (s ++ ['\n']) ++ linesOf t := by
  suffices h : ∀ line : List Char,
      linesFrom line (s ++ '\n' :: t) = linesFrom line (s ++ ['\n']) ++ linesOf t from h []
  induction s with
  | nil =>
    intro line
    simp [linesFrom, linesOf]
  | cons c s ih =>
    intro line
    by_cases h : c = '\n'
    · simp [linesFrom, h, ih]
    · simp [linesFrom, h, ih]

end Text
end StageInterface
