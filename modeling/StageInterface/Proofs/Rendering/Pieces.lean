import StageInterface.Proofs.Rendering.Outline

/-!
# Pieces of a stage's text

Behind its header the text of a stage is a sequence of declarations, comments
and empty lines, and then the main function if there is one.  Each of these
begins with a character of its own and can be told from whatever follows it, so
that the sequence can be told from the text; newlines at the end count as empty
lines.  This holds with titles on the sections and without.

**Results.**
* `Interface.toList_sections`: the sections are a sequence of pieces.
* `Piece.outlines_eq_of_text_eq`: the declarations and the main body are told
  from the text.
-/

namespace StageInterface

/-- What the sections of a stage's text are put together from. -/
inductive Piece
  | emptyLine
  | comment (text : String)
  | declaration (o : Outline)

namespace Piece

def write : Piece → List Char
  | emptyLine => ['\n']
  | comment text => '/' :: '*' :: ' ' :: ((text ++ " */").toList ++ ['\n'])
  | declaration o => o.write

/-- The comment is on one line, the names of the declaration are words. -/
def IsSpelled : Piece → Prop
  | emptyLine => True
  | comment text => '\n' ∉ text.toList
  | declaration o => o.IsSpelled

/-- What pieces begin with. -/
def mark
    (c : Char) : Bool :=
  c = '\n' || c = '/' || Outline.mark c

def declaration? : Piece → Option Outline
  | declaration o => some o
  | _ => none

theorem write_comment_append_inj
    {text text' : String}
    {r s : List Char}
    (htext : (comment text).IsSpelled)
    (htext' : (comment text').IsSpelled)
    (h : (comment text).write ++ r = (comment text').write ++ s) :
    comment text = comment text' ∧ r = s := by
  let p : Char → Bool := fun c => c ≠ '\n'
  have hline : ∀ {text : String}, (comment text).IsSpelled →
      ∀ c ∈ (text ++ " */").toList, p c = true := by
    intro text htext c hc
    have hmark : '\n' ∉ " */".toList := by decide
    have hnone : '\n' ∉ (text ++ " */").toList := by
      rw [String.toList_append, List.mem_append]
      exact not_or_intro htext hmark
    exact decide_eq_true (ne_of_mem_of_not_mem hc hnone)
  have hstops : ∀ s : List Char, Text.Stops p ('\n' :: s) := Text.stops_cons (by decide)
  simp only [write, List.cons_append, List.append_assoc, List.nil_append, List.cons.injEq,
    true_and] at h
  obtain ⟨heq, hrest⟩ :=
    Text.append_inj_of_stops (hline htext) (hline htext') (hstops r) (hstops s) h
  rw [String.toList_append, String.toList_append] at heq
  exact ⟨by rw [String.toList_inj.1 (List.append_cancel_right heq)], (List.cons.inj hrest).2⟩

/-- A declaration begins neither as an empty line nor as a comment. -/
theorem write_declaration_append_ne
    {o : Outline}
    {c : Char}
    (hc : Outline.mark c = false)
    {r s : List Char} :
    (declaration o).write ++ r ≠ c :: s := by
  intro h
  obtain ⟨c', t, hwrite, hmark⟩ := o.exists_mark
  rw [write, hwrite, List.cons_append, List.cons.injEq] at h
  rw [h.1, hc] at hmark
  cases hmark

theorem legible :
    Text.Legible IsSpelled write mark where
  append_inj := by
    intro a b r s ha hb h
    have hnewline : Outline.mark '\n' = false := by decide
    have hslash : Outline.mark '/' = false := by decide
    cases a with
    | emptyLine =>
        cases b with
        | emptyLine => exact ⟨rfl, (List.cons.inj h).2⟩
        | comment text => simp [write] at h
        | declaration o => exact absurd h.symm (write_declaration_append_ne hnewline)
    | comment text =>
        cases b with
        | emptyLine => simp [write] at h
        | comment text' => exact write_comment_append_inj ha hb h
        | declaration o => exact absurd h.symm (write_declaration_append_ne hslash)
    | declaration o =>
        cases b with
        | emptyLine => exact absurd h (write_declaration_append_ne hnewline)
        | comment text => exact absurd h (write_declaration_append_ne hslash)
        | declaration o' =>
            obtain ⟨rfl, hrest⟩ := Outline.legible.append_inj ha hb h
            exact ⟨rfl, hrest⟩
  exists_mark := by
    intro a _
    cases a with
    | emptyLine => exact ⟨'\n', [], rfl, by decide⟩
    | comment text => exact ⟨'/', _, rfl, by decide⟩
    | declaration o =>
        obtain ⟨c, s, hwrite, hc⟩ := o.exists_mark
        exact ⟨c, s, hwrite, by rw [mark, hc, Bool.or_true]⟩

end Piece

section Sections

/-- The pieces of a section of declarations with the given outlines. -/
def sectionPieces
    (comments : Bool)
    (title : String)
    (l : List Outline) : List Piece :=
  if l.isEmpty then
    if comments then [.comment ("No " ++ title), .emptyLine] else []
  else
    (if comments then [.comment title] else []) ++ (l.map .declaration ++ [.emptyLine])

theorem toList_renderSection
    (comments : Bool)
    (title : String)
    (l : List Outline) :
    (Section.render comments ⟨title, String.ofList (l.flatMap Outline.write)⟩).toList =
      (sectionPieces comments title l).flatMap Piece.write := by
  cases l with
  | nil => cases comments <;> simp [Section.render, sectionPieces, Piece.write]
  | cons o l =>
      obtain ⟨c, s, hwrite, -⟩ := o.exists_mark
      have hcode : (String.ofList ((o :: l).flatMap Outline.write)).isEmpty = false := by
        rw [List.flatMap_cons, hwrite, List.cons_append]
        simp
      have hpieces : ((o :: l).map Piece.declaration).flatMap Piece.write =
          (o :: l).flatMap Outline.write :=
        List.flatMap_map _ _ _
      have hempty : [Piece.emptyLine].flatMap Piece.write = ['\n'] := rfl
      have hcomment : [Piece.comment title].flatMap Piece.write =
          ("/* " ++ title ++ " */\n").toList := by
        simp [Piece.write]
      simp only [Section.render, sectionPieces, hcode, List.isEmpty_cons, Bool.false_eq_true,
        if_false]
      cases comments with
      | false =>
          simp only [Bool.false_eq_true, if_false, List.nil_append, List.flatMap_append, hpieces,
            hempty]
          simp [-List.flatMap_cons]
      | true =>
          simp only [if_true, List.flatMap_append, hpieces, hempty, hcomment]
          simp [-List.flatMap_cons]

theorem filterMap_sectionPieces
    (comments : Bool)
    (title : String)
    (l : List Outline) :
    (sectionPieces comments title l).filterMap Piece.declaration? = l := by
  have hmap : (l.map Piece.declaration).filterMap Piece.declaration? = l := by
    rw [List.filterMap_map]
    exact List.filterMap_some
  rw [sectionPieces]
  cases l with
  | nil => cases comments <;> rfl
  | cons o l =>
      rw [List.isEmpty_cons, if_neg (by decide), List.filterMap_append, List.filterMap_append, hmap]
      cases comments <;> simp [List.filterMap_cons, Piece.declaration?]

end Sections

namespace Interface

/-- The sections of an interface: their titles and the outlines of their declarations. -/
def chapters
    (i : Interface) : List (String × List Outline) :=
  [("Structures", i.structures.map Structure.outline),
    ("Stage inputs (From previous stage)", i.stageInputs.map StageInput.outline),
    ("Uniform blocks", i.uniformBlocks.map UniformBlock.outline),
    ("Shader storage blocks", i.storageBlocks.map StorageBlock.outline),
    ("Stage outputs (To next stage)", i.stageOutputs.map StageOutput.outline)]

/-- The outlines of all declarations of an interface, section by section. -/
def outlines
    (i : Interface) : List Outline :=
  i.chapters.flatMap Prod.snd

def pieces
    (comments : Bool)
    (i : Interface) : List Piece :=
  i.chapters.flatMap (fun e => sectionPieces comments e.1 e.2)

theorem filterMap_pieces
    (comments : Bool)
    (i : Interface) :
    (i.pieces comments).filterMap Piece.declaration? = i.outlines := by
  rw [pieces, outlines, List.filterMap_flatMap]
  exact List.flatMap_congr (fun e _ => filterMap_sectionPieces comments e.1 e.2)

/-- The texts of declarations one behind the other are written from their outlines. -/
theorem join_eq_of_toList
    {α : Type}
    {source : α → String}
    {outline : α → Outline}
    (h : ∀ a, (source a).toList = (outline a).write)
    (l : List α) :
    String.join (l.map source) = String.ofList ((l.map outline).flatMap Outline.write) := by
  refine String.toList_inj.1 ?_
  rw [String.toList_join, String.toList_ofList, List.flatMap_map, List.flatMap_map]
  exact List.flatMap_congr (fun a _ => h a)

theorem sections_eq_map_chapters
    (i : Interface) :
    i.sections =
      i.chapters.map (fun e => ⟨e.1, String.ofList (e.2.flatMap Outline.write)⟩) := by
  have hstructures := join_eq_of_toList Structure.toList_source i.structures
  have hinputs := join_eq_of_toList StageInput.toList_source i.stageInputs
  have huniforms := join_eq_of_toList UniformBlock.toList_source i.uniformBlocks
  have hstorages := join_eq_of_toList StorageBlock.toList_source i.storageBlocks
  have houtputs := join_eq_of_toList StageOutput.toList_source i.stageOutputs
  rw [sections, Structure.sources, hstructures, hinputs, huniforms, hstorages, houtputs]
  rfl

/-- The sections of an interface are its pieces, one behind the other. -/
theorem toList_sections
    (comments : Bool)
    (i : Interface) :
    (String.join (i.sections.map (Section.render comments))).toList =
      (i.pieces comments).flatMap Piece.write := by
  rw [sections_eq_map_chapters, List.map_map, String.toList_join, List.flatMap_map, pieces,
    List.flatMap_assoc]
  exact List.flatMap_congr (fun e _ => toList_renderSection comments e.1 e.2)

/-- The titles of sections are on one line. -/
theorem isSpelled_pieces
    (comments : Bool)
    {i : Interface}
    (h : ∀ o ∈ i.outlines, o.IsSpelled) :
    ∀ a ∈ i.pieces comments, a.IsSpelled := by
  have htitles : ∀ e ∈ i.chapters, (Piece.comment e.1).IsSpelled ∧
      (Piece.comment ("No " ++ e.1)).IsSpelled := by
    have hfixed : ∀ t ∈ i.chapters.map Prod.fst,
        '\n' ∉ t.toList ∧ '\n' ∉ ("No " ++ t).toList := by
      simp only [chapters, List.map_cons, List.map_nil]
      decide
    exact fun e he => hfixed e.1 (List.mem_map_of_mem he)
  intro a ha
  obtain ⟨e, he, ha⟩ := List.mem_flatMap.1 ha
  have houtlines : ∀ o ∈ e.2, o.IsSpelled := fun o ho => h o (List.mem_flatMap.2 ⟨e, he, ho⟩)
  rw [sectionPieces] at ha
  cases a with
  | emptyLine => trivial
  | comment text =>
      split at ha <;> cases comments <;> simp at ha
      · exact ha ▸ (htitles e he).2
      · exact ha ▸ (htitles e he).1
  | declaration o =>
      split at ha <;> cases comments <;> simp at ha
      · exact houtlines o ha
      · exact houtlines o ha

end Interface

namespace Piece

/-- Newlines behind the sections are empty lines, unless the main function stands between. -/
theorem exists_pieces_rest
    {l : List Piece}
    (hl : ∀ a ∈ l, a.IsSpelled)
    (mainBody : Option String)
    (k : Nat) :
    ∃ (l' : List Piece) (rest : List Char),
      l.flatMap write ++ ((renderMain mainBody).toList ++ List.replicate k '\n') =
        l'.flatMap write ++ rest ∧
      (∀ a ∈ l', a.IsSpelled) ∧ l'.filterMap declaration? = l.filterMap declaration? ∧
      Text.Stops mark rest ∧
      rest = match mainBody with
        | none => []
        | some body => "void main ()\n\x7b\n".toList ++
            (((Text.trimNewlines body).toList ++ ['\n']) ++
              '\x7d' :: List.replicate (k + 1) '\n') := by
  cases mainBody with
  | none =>
      refine ⟨l ++ List.replicate k emptyLine, [], ?_, ?_, ?_, Text.stops_nil mark, rfl⟩
      · have hlines : (List.replicate k emptyLine).flatMap write = List.replicate k '\n' := by
          induction k with
          | zero => rfl
          | succ k ih => rw [List.replicate_succ, List.flatMap_cons, ih]; rfl
        rw [List.flatMap_append, hlines, List.append_nil]
        rfl
      · intro a ha
        rcases List.mem_append.1 ha with hmem | hmem
        · exact hl a hmem
        · rw [List.eq_of_mem_replicate hmem]
          trivial
      · have hnone : (List.replicate k emptyLine).filterMap declaration? = [] := by
          rw [List.filterMap_eq_nil_iff]
          intro a ha
          rw [List.eq_of_mem_replicate ha]
          rfl
        rw [List.filterMap_append, hnone, List.append_nil]
  | some body =>
      refine ⟨l, _, ?_, hl, rfl, ?_, rfl⟩
      · have hclosing : "\n\x7d\n".toList = ['\n', '\x7d', '\n'] := by decide
        unfold renderMain
        simp only [String.toList_append, hclosing, List.replicate_succ, List.append_assoc,
          List.cons_append, List.nil_append]
      · exact Text.stops_cons (by decide) _

/-- Pieces with a main function behind them, and any newlines behind that: the declarations and
the statements of the main function can be told from the text. -/
theorem outlines_eq_of_text_eq
    {l l' : List Piece}
    (hl : ∀ a ∈ l, a.IsSpelled)
    (hl' : ∀ a ∈ l', a.IsSpelled)
    {mainBody mainBody' : Option String}
    {k k' : Nat}
    (h : l.flatMap write ++ ((renderMain mainBody).toList ++ List.replicate k '\n') =
      l'.flatMap write ++ ((renderMain mainBody').toList ++ List.replicate k' '\n')) :
    l.filterMap declaration? = l'.filterMap declaration? ∧
      mainBody.map Text.trimNewlines = mainBody'.map Text.trimNewlines := by
  obtain ⟨m, rest, htext, hm, hdeclarations, hstops, hrest⟩ := exists_pieces_rest hl mainBody k
  obtain ⟨m', rest', htext', hm', hdeclarations', hstops', hrest'⟩ :=
    exists_pieces_rest hl' mainBody' k'
  rw [htext, htext'] at h
  obtain ⟨rfl, heq⟩ := legible.flatMap_append_inj hm hm' hstops hstops' h
  refine ⟨hdeclarations.symm.trans hdeclarations', ?_⟩
  rw [hrest, hrest'] at heq
  cases mainBody with
  | none =>
      cases mainBody' with
      | none => rfl
      | some body' => exact absurd heq (by simp)
  | some body =>
      cases mainBody' with
      | none => exact absurd heq (by simp)
      | some body' =>
          have hbody := Text.append_newlines_inj (by decide) (List.append_cancel_left heq)
          exact congrArg some (String.toList_inj.1 (List.append_cancel_right hbody))

end Piece
end StageInterface
