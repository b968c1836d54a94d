import Mathlib.Data.List.DropRight
import StageInterface.Text.Lines

/-!
# Lines of texts put together

How the lines of a text follow from those of its parts.  Parts that end where a
line ends (`EndsLine`) have their lines one behind the other; other parts share a
line where they meet.  Newlines at the end of a text make empty lines at the most.

**Results.**
* `linesOf_append`, `linesOf_flatMap`: the lines of parts that end a line.
* `linesOf_line`: a line is one line.
* `filter_linesOf_append_newlines`: newlines at the end do not show among lines
  without the empty ones.
* `endsInOneNewline_trimNewlines`: a trimmed text with a newline behind it ends in
  one newline.
-/

namespace StageInterface
namespace Text

/-- The text ends where a line ends, or is empty. -/
def EndsLine
    (s : List Char) : Prop :=
  s = [] ∨ ∃ r, s = r ++ ['\n']

/-- The last character of the text is a newline and the one before it is none. -/
def EndsInOneNewline
    (s : List Char) : Prop :=
  ∃ r, s = r ++ ['\n'] ∧ r.getLast? ≠ some '\n'

section Parts

variable {s t : List Char}

theorem endsLine_nil :
    EndsLine [] :=
  Or.inl rfl

theorem endsLine_concat
    (s : List Char) :
    EndsLine (s ++ ['\n']) :=
  Or.inr ⟨s, rfl⟩

theorem EndsLine.append
    (hs : EndsLine s)
    (ht : EndsLine t) :
    EndsLine (s ++ t) := by
  rcases ht with rfl | ⟨r, rfl⟩
  · rw [List.append_nil]
    exact hs
  · rw [← List.append_assoc]
    exact endsLine_concat (s ++ r)

/-- A text ends a line if a newline is the last of what is behind it. -/
theorem endsLine_append_of_newline
    {t : String}
    (ht : ∃ r, t.toList = r ++ ['\n'])
    (s : String) :
    EndsLine (s ++ t).toList := by
  obtain ⟨r, hr⟩ := ht
  rw [String.toList_append, hr, ← List.append_assoc]
  exact endsLine_concat (s.toList ++ r)

theorem EndsLine.flatMap
    {α : Type}
    {write : α → List Char}
    {l : List α}
    (h : ∀ a ∈ l, EndsLine (write a)) :
    EndsLine (l.flatMap write) := by
  induction l with
  | nil => exact endsLine_nil
  | cons a l ih =>
      rw [List.flatMap_cons]
      exact (h a List.mem_cons_self).append (ih (fun b hb => h b (List.mem_cons_of_mem a hb)))

/-- Behind the end of a line the lines go on with those of the rest. -/
theorem linesOf_append
    (hs : EndsLine s)
    (t : List Char) :
    linesOf (s ++ t) = linesOf s ++ linesOf t := by
  rcases hs with rfl | ⟨r, rfl⟩
  · rfl
  · rw [List.append_assoc, List.singleton_append]
    exact linesOf_newline r t

theorem linesOf_flatMap
    {α : Type}
    {write : α → List Char}
    {l : List α}
    (h : ∀ a ∈ l, EndsLine (write a)) :
    linesOf (l.flatMap write) = l.flatMap (fun a => linesOf (write a)) := by
  induction l with
  | nil => rfl
  | cons a l ih =>
      rw [List.flatMap_cons, List.flatMap_cons, linesOf_append (h a List.mem_cons_self),
        ih (fun b hb => h b (List.mem_cons_of_mem a hb))]

/-- Characters that are no newlines are on one line, behind those that the line has already. -/
theorem linesFrom_line
    (line : List Char)
    (hs : '\n' ∉ s) :
    linesFrom line (s ++ ['\n']) = [line.reverse ++ s] := by
  induction s generalizing line with
  | nil => simp [linesFrom]
  | cons c s ih =>
      have hc : c ≠ '\n' := (List.ne_of_not_mem_cons hs).symm
      rw [List.cons_append, linesFrom, if_neg hc, ih _ (List.not_mem_of_not_mem_cons hs)]
      simp

theorem linesOf_line
    (hs : '\n' ∉ s) :
    linesOf (s ++ ['\n']) = [s] :=
  linesFrom_line [] hs

end Parts

section Newlines

variable {keep : List Char → Bool}

/-- One newline at the end ends the last line or makes an empty one. -/
theorem filter_linesFrom_append_newline
    (hkeep : keep [] = false)
    (line s : List Char) :
    (linesFrom line (s ++ ['\n'])).filter keep = (linesFrom line s).filter keep := by
  induction s generalizing line with
  | nil => cases line <;> simp [linesFrom, hkeep]
  | cons c s ih =>
      rw [List.cons_append, linesFrom, linesFrom]
      split
      · rw [List.filter_cons, List.filter_cons, ih]
      · exact ih (c :: line)

theorem filter_linesOf_append_newlines
    (hkeep : keep [] = false)
    (s : List Char)
    (k : Nat) :
    (linesOf (s ++ List.replicate k '\n')).filter keep = (linesOf s).filter keep := by
  induction k with
  | zero => rw [List.replicate_zero, List.append_nil]
  | succ k ih =>
      rw [List.replicate_succ', ← List.append_assoc, ← ih]
      exact filter_linesFrom_append_newline hkeep [] _

theorem endsInOneNewline_trimNewlines
    (s : String) :
    EndsInOneNewline (trimNewlines s ++ "\n").toList := by
  refine ⟨(trimNewlines s).toList, String.toList_append, ?_⟩
  have htrim : (trimNewlines s).toList = s.toList.rdropWhile (fun c => c = '\n') := by
    rw [trimNewlines, String.toList_ofList]
    rfl
  rw [htrim]
  intro hlast
  have hne : s.toList.rdropWhile (fun c => c = '\n') ≠ [] := by
    intro hnil
    rw [hnil] at hlast
    cases hlast
  rw [List.getLast?_eq_some_getLast hne, Option.some.injEq] at hlast
  exact List.rdropWhile_last_not _ _ hne (decide_eq_true hlast)

end Newlines

end Text
end StageInterface
