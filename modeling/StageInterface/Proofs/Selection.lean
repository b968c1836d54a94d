import StageInterface.Generation

/-!
# Selection of declarations

Which of the declarations that were handed to a definition are written into the
text of its stage.  The first of a kind and name shadows the later ones, whether
it is written itself or not; the rest depends on the declaration alone and on
the attributes of the geometry.

**Results.**
* `value_declareAll`: a definition holds the first declaration of each kind and
  name.
* `kept_declareAll`: what a geometry keeps of them are the declarations that
  contribute.
* `generate_eq_contributing`: the generated text has the contributing
  declarations in its sections and nothing else, and there is none exactly when
  nothing contributes and there is no main body.
-/

namespace StageInterface

namespace Declaration

/-- What a stage input or output is to both stages. -/
def stageVariable? : Declaration → Option StageVariable
  | stageInput i => some i.toStageVariable
  | stageOutput o => some o.toStageVariable
  | _ => none

/-- None of the declarations before has the kind and the name of this one. -/
def IsFirst
    (before : List Declaration)
    (d : Declaration) : Prop :=
  ∀ d' ∈ before, d'.kind = d.kind → d'.name ≠ d.name

/-- The declaration, made behind others, is written into a text for the attributes. -/
structure Contributes
    (attributes : List VertexAttribute)
    (before : List Declaration)
    (d : Declaration) : Prop where
  first : d.IsFirst before
  complete : d.name ≠ .absent ∧ ∀ v ∈ d.stageVariable?, v.type ≠ .absent
  sized : ∀ v ∈ d.stageVariable?, v.extent ≠ .runtime
  provided : ∀ i ∈ d.stageInput?, ∀ a ∈ i.required, a ∈ attributes

instance (before : List Declaration) (d : Declaration) : Decidable (d.IsFirst before) :=
  inferInstanceAs (Decidable (∀ d' ∈ before, d'.kind = d.kind → d'.name ≠ d.name))

instance (attributes : List VertexAttribute) (before : List Declaration) (d : Declaration) :
    Decidable (d.Contributes attributes before) :=
  decidable_of_iff
    (d.IsFirst before ∧ (d.name ≠ .absent ∧ ∀ v ∈ d.stageVariable?, v.type ≠ .absent) ∧
      (∀ v ∈ d.stageVariable?, v.extent ≠ .runtime) ∧
      ∀ i ∈ d.stageInput?, ∀ a ∈ i.required, a ∈ attributes)
    ⟨fun h => ⟨h.1, h.2.1, h.2.2.1, h.2.2.2⟩,
      fun h => ⟨h.first, h.complete, h.sized, h.provided⟩⟩

theorem isComplete_iff
    {d : Declaration} :
    d.isComplete = true ↔ d.name ≠ .absent ∧ ∀ v ∈ d.stageVariable?, v.type ≠ .absent := by
  cases d with
  | struct s =>
      simp [isComplete, Structure.isComplete, name, stageVariable?, Lexeme.isPresent_iff]
  | uniformBlock b =>
      simp [isComplete, Block.isComplete, name, stageVariable?, Lexeme.isPresent_iff]
  | storageBlock b =>
      simp [isComplete, Block.isComplete, name, stageVariable?, Lexeme.isPresent_iff]
  | stageInput i =>
      simp [isComplete, StageVariable.isComplete, name, stageVariable?, Lexeme.isPresent_iff,
        and_comm]
  | stageOutput o =>
      simp [isComplete, StageVariable.isComplete, name, stageVariable?, Lexeme.isPresent_iff,
        and_comm]

theorem isRuntimeVariable_eq_false_iff
    {d : Declaration} :
    d.isRuntimeVariable = false ↔ ∀ v ∈ d.stageVariable?, v.extent ≠ .runtime := by
  rw [← Bool.not_eq_true]
  cases d <;>
    simp [isRuntimeVariable, stageVariable?, StageVariable.isRuntime, Extent.isRuntime_iff]

theorem required?_eq
    (d : Declaration) :
    d.required? = d.stageInput?.bind StageInput.required := by
  cases d <;> rfl

/-- A declaration contributes when it is the first and is kept for the attributes. -/
theorem contributes_iff
    {attributes : List VertexAttribute}
    {before : List Declaration}
    {d : Declaration} :
    d.Contributes attributes before ↔
      d.IsFirst before ∧ d.verdict (AttributeSet.ofList attributes).contains = .kept := by
  rw [verdict_eq_kept_iff, isComplete_iff, isRuntimeVariable_eq_false_iff]
  have hprovided :
      (∀ a, d.required? = some a → (AttributeSet.ofList attributes).contains a = true) ↔
        ∀ i ∈ d.stageInput?, ∀ a ∈ i.required, a ∈ attributes := by
    simp only [required?_eq, Option.bind_eq_some_iff, AttributeSet.contains_ofList, Option.mem_def]
    constructor
    · intro h i hi a ha
      exact h a ⟨i, hi, ha⟩
    · rintro h a ⟨i, hi, ha⟩
      exact h i hi a ha
  rw [hprovided]
  constructor
  · intro h
    exact ⟨h.first, h.complete, h.sized, h.provided⟩
  · rintro ⟨hfirst, hcomplete, hsized, hprovided⟩
    exact ⟨hfirst, hcomplete, hsized, hprovided⟩

theorem isFirst_concat_iff
    {before : List Declaration}
    {d d' : Declaration} :
    d'.IsFirst (before ++ [d]) ↔ d'.IsFirst before ∧ (d.kind = d'.kind → d.name ≠ d'.name) := by
  rw [IsFirst, List.forall_mem_append, List.forall_mem_singleton]
  rfl

/-- What is shadowed shadows nothing more. -/
theorem isFirst_concat_of_not_isFirst
    {before : List Declaration}
    {d d' : Declaration}
    (hd : ¬ d.IsFirst before) :
    d'.IsFirst (before ++ [d]) ↔ d'.IsFirst before := by
  rw [isFirst_concat_iff]
  refine and_iff_left_of_imp ?_
  intro hfirst hkind hname
  refine hd ?_
  intro d'' hd'' hkind''
  rw [hname]
  exact hfirst d'' hd'' (hkind''.trans hkind)

end Declaration

/-- The declarations of a list that no earlier one shadows, where some were made before. -/
def firstDeclarations
    (before : List Declaration) :
    List Declaration → List Declaration
  | [] => []
  | d :: l =>
      if d.IsFirst before then d :: firstDeclarations (before ++ [d]) l
      else firstDeclarations (before ++ [d]) l

/-- The declarations of a list that contribute, where some were made before. -/
def contributing
    (attributes : List VertexAttribute)
    (before : List Declaration) :
    List Declaration → List Declaration
  | [] => []
  | d :: l =>
      if d.Contributes attributes before then d :: contributing attributes (before ++ [d]) l
      else contributing attributes (before ++ [d]) l

/-- The sections of declarations: their texts, blocks without the structures that they bring along.
The definitions of those are in the first section. -/
def sectionsOf
    (l : List Declaration) : List Section :=
  [⟨"Structures", Structure.sources (Interface.ofList l).orderedStructures.value⟩,
    ⟨"Stage inputs (From previous stage)",
      String.join ((l.filterMap Declaration.stageInput?).map StageInput.source)⟩,
    ⟨"Uniform blocks",
      String.join ((l.filterMap Declaration.uniformBlock?).map UniformBlock.source)⟩,
    ⟨"Shader storage blocks",
      String.join ((l.filterMap Declaration.storageBlock?).map StorageBlock.source)⟩,
    ⟨"Stage outputs (To next stage)",
      String.join ((l.filterMap Declaration.stageOutput?).map StageOutput.source)⟩]

theorem filter_firstDeclarations
    (attributes : List VertexAttribute)
    (before l : List Declaration) :
    (firstDeclarations before l).filter
        (fun d => d.verdict (AttributeSet.ofList attributes).contains = .kept) =
      contributing attributes before l := by
  induction l generalizing before with
  | nil => rfl
  | cons d l ih =>
      rw [firstDeclarations, contributing]
      by_cases hfirst : d.IsFirst before
      · rw [if_pos hfirst, List.filter_cons, ih]
        simp only [Declaration.contributes_iff, hfirst, true_and, decide_eq_true_eq]
      · rw [if_neg hfirst, ih]
        simp only [Declaration.contributes_iff, hfirst, false_and, if_false]

/-- No declaration is lost when declarations are grouped by kind. -/
theorem Interface.isEmpty_ofList_iff
    {l : List Declaration} :
    (Interface.ofList l).isEmpty = true ↔ l = [] := by
  constructor
  · intro h
    cases l with
    | nil => rfl
    | cons d l => cases d <;> simp [Interface.isEmpty, Interface.ofList, Declaration.struct?,
        Declaration.stageInput?, Declaration.uniformBlock?, Declaration.storageBlock?,
        Declaration.stageOutput?] at h
  · rintro rfl
    rfl

namespace Definition

/-- Declaring takes in the first declaration of each kind and name, and changes nothing else. -/
theorem value_declareAll
    {f : Definition}
    {before : List Declaration}
    (hf : ∀ d, f.admits d = true ↔ d.IsFirst before)
    (l : List Declaration) :
    (f.declareAll l).value =
      { f with declarations := f.declarations ++ firstDeclarations before l } := by
  induction l generalizing f before with
  | nil => simp [declareAll, firstDeclarations]
  | cons d l ih =>
      have hcons : (f.declareAll (d :: l)).value = ((f.declare d).value.declareAll l).value := by
        rw [declareAll, List.foldlM_cons, Noted.value_bind]
        rfl
      rw [hcons, firstDeclarations, declare]
      by_cases hd : d.IsFirst before
      · rw [if_pos ((hf d).2 hd), if_pos hd, Noted.value_pure]
        have hadmits : ∀ d', ({ f with declarations := f.declarations ++ [d] }).admits d' = true ↔
            d'.IsFirst (before ++ [d]) := by
          intro d'
          rw [Declaration.isFirst_concat_iff, ← hf, admits_iff, admits_iff,
            List.forall_mem_append, List.forall_mem_singleton]
        rw [ih hadmits, List.append_assoc]
        rfl
      · rw [if_neg (fun h => hd ((hf d).1 h)), if_neg hd]
        have hadmits : ∀ d', f.admits d' = true ↔ d'.IsFirst (before ++ [d]) := by
          intro d'
          rw [Declaration.isFirst_concat_of_not_isFirst hd, hf]
        exact ih hadmits

/-- A geometry collected from attributes keeps the declarations that contribute. -/
theorem kept_declareAll
    {f : Definition}
    (hf : f.declarations = [])
    (calls : List Declaration)
    (attributes : List VertexAttribute) :
    (f.declareAll calls).value.kept (AttributeSet.ofList attributes).contains =
      contributing attributes [] calls := by
  have hadmits : ∀ d, f.admits d = true ↔ d.IsFirst [] := by
    intro d
    rw [admits_iff, hf]
    rfl
  rw [value_declareAll hadmits, kept, hf, List.nil_append, filter_firstDeclarations]

/-- Generation fails when nothing is selected and there is no main body; else the selected
interface is rendered, and each of its blocks gets a binding. -/
theorem value_generate
    (f : Definition)
    (c : Config)
    (g : Geometry) :
    (f.generate c g).value =
      if (f.selected g).isEmpty = true ∧ f.mainBody = none then
        .error (.nothingToGenerate f.stage f.name)
      else
        .ok {
          stage := f.stage
          name := f.name
          code := f.render c (f.selected g).arranged.value
          uniformBlocks := (f.selected g).uniformBlocks.map (fun b => b.summary.value)
          storageBlocks := (f.selected g).storageBlocks.map (fun b => b.summary.value) } := by
  rw [generate]
  simp only [Noted.value_bind, select, Bool.and_eq_true, Option.isNone_iff_eq_none]
  split
  · rfl
  · simp [assemble, Noted.value_mapM]

/-- A generated text is that of the selected interface. -/
theorem code_of_generate
    {f : Definition}
    {c : Config}
    {g : Geometry}
    {source : StageSource}
    (h : (f.generate c g).value = .ok source) :
    source.code = f.render c (f.selected g).arranged.value := by
  rw [value_generate] at h
  split at h
  · cases h
  · cases h
    rfl

/-- A text is generated from the declarations that contribute and from no others: its sections are
theirs, and each of their blocks has a binding.  There is none exactly when nothing contributes and
there is no main body. -/
theorem generate_eq_contributing
    (stage : Stage)
    (name : String)
    (extensions : List Extension)
    (mainBody : Option String)
    (calls : List Declaration)
    (attributes : List VertexAttribute)
    (c : Config) :
    let blank : Definition := { Definition.ofStage stage name with extensions, mainBody }
    let f := (blank.declareAll calls).value
    let result := (f.generate c (AttributeSet.ofList attributes).contains).value
    let l := contributing attributes [] calls
    (l = [] ∧ mainBody = none → result = .error (.nothingToGenerate stage name)) ∧
    (¬ (l = [] ∧ mainBody = none) → result = .ok {
      stage
      name
      code := Text.trimNewlines
        (blank.header c ++ String.join ((sectionsOf l).map (Section.render c.sectionComments)) ++
          renderMain mainBody) ++ "\n"
      uniformBlocks := (l.filterMap Declaration.uniformBlock?).map
        (fun b => ⟨b.name, b.set, b.binding, b.byteSize.value⟩)
      storageBlocks := (l.filterMap Declaration.storageBlock?).map
        (fun b => ⟨b.name, b.set, b.binding, b.byteSize.value⟩) }) := by
  intro blank f result l
  have hadmits : ∀ d, blank.admits d = true ↔ d.IsFirst [] := by
    intro d
    rw [admits_iff]
    rfl
  have hf : f = { blank with declarations := firstDeclarations [] calls } :=
    value_declareAll hadmits calls
  have hselected : f.selected (AttributeSet.ofList attributes).contains = Interface.ofList l := by
    rw [selected, kept_declareAll rfl]
  have hresult : result = _ := value_generate f c (AttributeSet.ofList attributes).contains
  simp only [hselected, Interface.isEmpty_ofList_iff] at hresult
  rw [hf] at hresult
  constructor
  · intro h
    rw [hresult, if_pos h]
    rfl
  · intro h
    rw [hresult, if_neg h]
    rfl

end Definition
end StageInterface
