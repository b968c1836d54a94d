import StageInterface.Proofs.Selection
import StageInterface.Proofs.Text.Delimited
import StageInterface.Proofs.Text.Lines

/-!
# Section comments

A section is written with a comment or without one, and an empty section with a
comment or not at all.  Everything else of a stage's text is the same.  Each part
in front of the main function ends where a line ends, so that no line is made of
two parts: without blank lines and comments, the lines are the same.  Names and
statements may be any text, also one that looks like a comment.

**Results.**
* `codeLines_render`: a section has the same lines of code with comments and
  without.
* `Definition.generate_sectionComments`: so does the generated text, and all else
  that is generated is equal.
-/

namespace StageInterface

/-- The titles of the sections of a text. -/
def Section.titles : List String :=
  ["Structures", "Stage inputs (From previous stage)", "Uniform blocks", "Shader storage blocks",
    "Stage outputs (To next stage)"]

/-- The comments on sections and on empty sections. -/
def Section.comments : List (List Char) :=
  titles.flatMap (fun t => [("/* " ++ t ++ " */").toList, ("/* No " ++ t ++ " */").toList])

example : Section.comments.length = 10 := by decide

/-- The lines of a text without those that are blank and those that are comments on sections. -/
def codeLines
    (blank : List Char → Bool)
    (s : List Char) : List (List Char) :=
  (Text.linesOf s).filter (fun line => !(blank line || Section.comments.contains line))

theorem Interface.title_mem_titles
    {i : Interface}
    {s : Section}
    (hs : s ∈ i.sections) :
    s.title ∈ Section.titles := by
  have htitles : i.sections.map Section.title = Section.titles := rfl
  rw [← htitles]
  exact List.mem_map_of_mem hs

section Endings

theorem Section.endsLine_render
    (comments : Bool)
    (s : Section) :
    Text.EndsLine (s.render comments).toList := by
  unfold render
  split
  · cases comments with
    | false => exact Text.endsLine_nil
    | true => exact Text.endsLine_append_of_newline ⟨" */\n".toList, by decide⟩ _
  · exact Text.endsLine_append_of_newline ⟨[], by decide⟩ _

theorem Definition.endsLine_header
    (f : Definition)
    (c : Config) :
    Text.EndsLine (f.header c).toList := by
  unfold header
  exact Text.endsLine_append_of_newline ⟨" */\n".toList, by decide⟩ _

end Endings

section Lines

variable {blank : List Char → Bool}

theorem codeLines_append
    {s : List Char}
    (hs : Text.EndsLine s)
    (t : List Char) :
    codeLines blank (s ++ t) = codeLines blank s ++ codeLines blank t := by
  rw [codeLines, Text.linesOf_append hs, List.filter_append]
  rfl

theorem codeLines_flatMap
    {α : Type}
    {write : α → List Char}
    {l : List α}
    (h : ∀ a ∈ l, Text.EndsLine (write a)) :
    codeLines blank (l.flatMap write) = l.flatMap (fun a => codeLines blank (write a)) := by
  rw [codeLines, Text.linesOf_flatMap h, List.filter_flatMap]
  rfl

theorem codeLines_comment
    {line : List Char}
    (hline : line ∈ Section.comments) :
    codeLines blank (line ++ ['\n']) = [] := by
  have hnewline : ∀ line ∈ Section.comments, '\n' ∉ line := by decide
  have hcontains : Section.comments.contains line = true := List.contains_iff_mem.2 hline
  rw [codeLines, Text.linesOf_line (hnewline line hline), List.filter_cons, hcontains,
    Bool.or_true]
  rfl

theorem codeLines_newline
    (hblank : blank [] = true) :
    codeLines blank ['\n'] = [] := by
  have hlines : Text.linesOf ['\n'] = [[]] := rfl
  rw [codeLines, hlines, List.filter_cons, hblank]
  rfl

/-- A section has the same lines of code with comments and without. -/
theorem codeLines_render
    (hblank : blank [] = true)
    {s : Section}
    (hs : s.title ∈ Section.titles) :
    codeLines blank (s.render true).toList = codeLines blank (s.render false).toList := by
  have hfull : ("/* " ++ s.title ++ " */").toList ∈ Section.comments :=
    List.mem_flatMap.2 ⟨s.title, hs, List.mem_cons_self⟩
  have hempty : ("/* No " ++ s.title ++ " */").toList ∈ Section.comments :=
    List.mem_flatMap.2 ⟨s.title, hs, List.mem_cons_of_mem _ List.mem_cons_self⟩
  unfold Section.render
  split
  · have htext : ("/* No " ++ s.title ++ " */\n\n").toList =
        (("/* No " ++ s.title ++ " */").toList ++ ['\n']) ++ ['\n'] := by
      simp
    rw [if_pos rfl, htext, codeLines_append (Text.endsLine_concat _), codeLines_comment hempty,
      codeLines_newline hblank]
    rfl
  · have htext : ("/* " ++ s.title ++ " */\n" ++ s.code ++ "\n").toList =
        (("/* " ++ s.title ++ " */").toList ++ ['\n']) ++ (s.code ++ "\n").toList := by
      simp
    rw [if_pos rfl, htext, codeLines_append (Text.endsLine_concat _), codeLines_comment hfull]
    rfl

theorem codeLines_sections
    (hblank : blank [] = true)
    (i : Interface) :
    codeLines blank (String.join (i.sections.map (Section.render true))).toList =
      codeLines blank (String.join (i.sections.map (Section.render false))).toList := by
  have hlines : ∀ comments : Bool,
      codeLines blank (String.join (i.sections.map (Section.render comments))).toList =
        i.sections.flatMap (fun s => codeLines blank (s.render comments).toList) := by
    intro comments
    rw [String.toList_join, List.flatMap_map]
    exact codeLines_flatMap (fun s _ => s.endsLine_render comments)
  rw [hlines, hlines]
  exact List.flatMap_congr (fun s hs => codeLines_render hblank (Interface.title_mem_titles hs))

/-- Newlines that are cut off or put behind a text are no lines of code. -/
theorem codeLines_trimNewlines
    (hblank : blank [] = true)
    (s : String) :
    codeLines blank (Text.trimNewlines s ++ "\n").toList = codeLines blank s.toList := by
  have hkeep : (!(blank [] || Section.comments.contains [])) = false := by
    rw [hblank]
    rfl
  obtain ⟨k, hk⟩ := Text.exists_toList_eq_trimNewlines_append s
  have hone : (Text.trimNewlines s ++ "\n").toList =
      (Text.trimNewlines s).toList ++ List.replicate 1 '\n' :=
    String.toList_append
  rw [hk, hone, codeLines, codeLines, Text.filter_linesOf_append_newlines hkeep,
    Text.filter_linesOf_append_newlines hkeep]

end Lines

namespace Definition

theorem codeLines_render
    {blank : List Char → Bool}
    (hblank : blank [] = true)
    (f : Definition)
    (c : Config)
    (i : Interface) :
    codeLines blank (f.render { c with sectionComments := true } i).toList =
      codeLines blank (f.render { c with sectionComments := false } i).toList := by
  have hparts : ∀ comments : Bool,
      codeLines blank (f.render { c with sectionComments := comments } i).toList =
        codeLines blank (f.header c).toList ++
          (codeLines blank (String.join (i.sections.map (Section.render comments))).toList ++
            codeLines blank (renderMain f.mainBody).toList) := by
    intro comments
    have hsections :
        Text.EndsLine (String.join (i.sections.map (Section.render comments))).toList := by
      rw [String.toList_join, List.flatMap_map]
      exact Text.EndsLine.flatMap (fun s _ => s.endsLine_render comments)
    rw [render, codeLines_trimNewlines hblank, String.toList_append, String.toList_append,
      List.append_assoc, codeLines_append (f.endsLine_header _), codeLines_append hsections]
    rfl
  rw [hparts, hparts, codeLines_sections hblank]

/-- With comments on sections and without them there is the same fault, or two sources that differ
in their text only.  Without blank lines, whichever lines count as blank besides the empty one, and
without comments on sections, both texts have the same lines in the same order; both end in one
newline. -/
theorem generate_sectionComments
    (f : Definition)
    (c : Config)
    (g : Geometry) :
    let commented := (f.generate { c with sectionComments := true } g).value
    let plain := (f.generate { c with sectionComments := false } g).value
    (∃ fault, commented = .error fault ∧ plain = .error fault) ∨
      ∃ source source' : StageSource, commented = .ok source ∧ plain = .ok source' ∧
        source' = { source with code := source'.code } ∧
        (∀ blank : List Char → Bool, blank [] = true →
          codeLines blank source.code.toList = codeLines blank source'.code.toList) ∧
        Text.EndsInOneNewline source.code.toList ∧
        Text.EndsInOneNewline source'.code.toList := by
  intro commented plain
  have hcommented : commented = _ := value_generate f { c with sectionComments := true } g
  have hplain : plain = _ := value_generate f { c with sectionComments := false } g
  by_cases hnothing : (f.selected g).isEmpty = true ∧ f.mainBody = none
  · rw [if_pos hnothing] at hcommented hplain
    exact Or.inl ⟨_, hcommented, hplain⟩
  · rw [if_neg hnothing] at hcommented hplain
    refine Or.inr ⟨_, _, hcommented, hplain, rfl, ?_, ?_, ?_⟩
    · intro blank hblank
      exact codeLines_render hblank f c (f.selected g).arranged.value
    · exact Text.endsInOneNewline_trimNewlines _
    · exact Text.endsInOneNewline_trimNewlines _

end Definition
end StageInterface
