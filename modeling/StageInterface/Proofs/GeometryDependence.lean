import Mathlib.Data.List.Basic
import StageInterface.Proofs.Selection

/-!
# What a geometry decides

A geometry is asked for the attributes that stage inputs require, and for nothing
else.  Geometries that give the same answers there give the same text.  One that
has more attributes adds stage inputs in their places and changes nothing else.

**Results.**
* `Declaration.verdict_congr`: a verdict depends on the required attribute only.
* `Definition.selected_eq`: only the selected stage inputs differ between
  geometries.
* `Definition.generate_geometry`: what this means for the generated text.
-/

namespace StageInterface

/-- Every attribute of the first geometry is also in the second. -/
def Geometry.Within
    (g g' : Geometry) : Prop :=
  ∀ a, g a = true → g' a = true

namespace Declaration

variable {g g' : Geometry}
variable {d : Declaration}

/-- A verdict depends on the geometry's answer for the required attribute only. -/
theorem verdict_congr
    (h : ∀ a, d.required? = some a → g a = g' a) :
    d.verdict g = d.verdict g' := by
  unfold verdict
  cases hd : d.required? with
  | none => rfl
  | some a => simp only [h a hd]

theorem verdict_eq_kept_of_within
    (h : g.Within g')
    (hd : d.verdict g = .kept) :
    d.verdict g' = .kept := by
  rw [verdict_eq_kept_iff] at hd ⊢
  exact ⟨hd.1, hd.2.1, fun a ha => h a (hd.2.2 a ha)⟩

/-- Only stage inputs require attributes. -/
theorem required?_of_stageInput?_eq_none
    (hd : d.stageInput? = none) :
    d.required? = none := by
  rw [required?_eq, hd]
  rfl

end Declaration

/-- The section of the given stage inputs. -/
def inputSection
    (inputs : List StageInput) : Section :=
  ⟨"Stage inputs (From previous stage)", String.join (inputs.map StageInput.source)⟩

namespace Definition

variable {f : Definition}
variable {g g' : Geometry}

/-- Geometries that agree on the required attributes select the same, and the same declarations
are noted as not kept. -/
theorem select_congr
    (h : ∀ d ∈ f.declarations, ∀ a, d.required? = some a → g a = g' a) :
    f.select g = f.select g' := by
  have hverdict : ∀ d ∈ f.declarations, d.verdict g = d.verdict g' :=
    fun d hd => Declaration.verdict_congr (h d hd)
  have hkept : f.kept g = f.kept g' :=
    List.filter_congr (fun d hd => by rw [hverdict d hd])
  rw [select, select, selected, selected, hkept]
  refine congrArg (Noted.mk _) (List.filterMap_congr ?_)
  intro d hd
  unfold Declaration.skipEvent?
  rw [hverdict d hd]

theorem kept_sublist
    (h : g.Within g') :
    (f.kept g).Sublist (f.kept g') := by
  refine List.monotone_filter_right f.declarations ?_
  intro d hd
  rw [decide_eq_true_eq] at hd ⊢
  exact Declaration.verdict_eq_kept_of_within h hd

/-- Declarations that are no stage inputs are selected under every geometry or under none. -/
theorem filterMap_kept_congr
    {α : Type}
    {take? : Declaration → Option α}
    (htake : ∀ d, d.stageInput? ≠ none → take? d = none)
    (g g' : Geometry) :
    (f.kept g).filterMap take? = (f.kept g').filterMap take? := by
  rw [kept, kept, List.filterMap_filter, List.filterMap_filter]
  refine List.filterMap_congr ?_
  intro d _
  cases hd : d.stageInput? with
  | none =>
      have hrequired := Declaration.required?_of_stageInput?_eq_none hd
      have hverdict : d.verdict g = d.verdict g' := Declaration.verdict_congr (by simp [hrequired])
      rw [hverdict]
  | some i => simp [htake d (by simp [hd])]

/-- The geometry decides on stage inputs only. -/
theorem selected_eq
    (f : Definition)
    (g g' : Geometry) :
    f.selected g' = { f.selected g with stageInputs := (f.selected g').stageInputs } := by
  have htake : ∀ {α : Type} (take? : Declaration → Option α),
      (∀ i, take? (.stageInput i) = none) →
        (f.kept g').filterMap take? = (f.kept g).filterMap take? := by
    intro α take? hnone
    refine filterMap_kept_congr ?_ g' g
    intro d hd
    cases d with
    | stageInput i => exact hnone i
    | struct | uniformBlock | storageBlock | stageOutput => exact absurd rfl hd
  rw [selected, selected, Interface.ofList, Interface.ofList, Interface.mk.injEq]
  exact ⟨htake _ (fun _ => rfl), rfl, htake _ (fun _ => rfl), htake _ (fun _ => rfl),
    htake _ (fun _ => rfl)⟩

theorem stageInputs_sublist
    (h : g.Within g') :
    (f.selected g).stageInputs.Sublist (f.selected g').stageInputs :=
  (kept_sublist h).filterMap Declaration.stageInput?

theorem isEmpty_of_within
    (h : g.Within g')
    (hempty : (f.selected g').isEmpty = true) :
    (f.selected g).isEmpty = true := by
  have hkept : f.kept g' = [] := Interface.isEmpty_ofList_iff.1 hempty
  have hsub : (f.kept g).Sublist [] := hkept ▸ kept_sublist h
  exact Interface.isEmpty_ofList_iff.2 (List.sublist_nil.1 hsub)

/-- Structure definitions are put in order without a look at stage inputs. -/
theorem arranged_selected
    (f : Definition)
    (g g' : Geometry) :
    (f.selected g').arranged.value =
      { (f.selected g).arranged.value with stageInputs := (f.selected g').stageInputs } := by
  rw [selected_eq f g g']
  rfl

/-- The text has the stage inputs in one place, and what stands before and behind them comes from
the rest of the interface. -/
theorem render_stageInputs
    (f : Definition)
    (c : Config)
    (i : Interface) :
    ∃ before after, ∀ inputs : List StageInput,
      f.render c { i with stageInputs := inputs } =
        Text.trimNewlines
          (before ++ (inputSection inputs).render c.sectionComments ++ after) ++ "\n" := by
  let structures := Section.render c.sectionComments ⟨"Structures", Structure.sources i.structures⟩
  let blocks := String.join ((i.sections.drop 2).map (Section.render c.sectionComments))
  refine ⟨f.header c ++ structures, blocks ++ renderMain f.mainBody, ?_⟩
  intro inputs
  have hsections : ({ i with stageInputs := inputs }).sections =
      ⟨"Structures", Structure.sources i.structures⟩ :: inputSection inputs ::
        i.sections.drop 2 := rfl
  have hjoin :
      String.join (({ i with stageInputs := inputs }).sections.map
        (Section.render c.sectionComments)) =
      structures ++ ((inputSection inputs).render c.sectionComments ++ blocks) := by
    rw [hsections, List.map_cons, List.map_cons, String.join_cons, String.join_cons]
  rw [render, hjoin]
  simp only [String.append_assoc]

/-- With more attributes there is a source if there was one, and nothing but its text differs. -/
theorem exists_generate_of_within
    {c : Config}
    (h : g.Within g')
    {source : StageSource}
    (hsource : (f.generate c g).value = .ok source) :
    ∃ source', (f.generate c g').value = .ok source' ∧
      source' = { source with code := source'.code } := by
  rw [value_generate] at hsource
  split at hsource
  · cases hsource
  next hsome =>
    cases hsource
    have hsome' : ¬ ((f.selected g').isEmpty = true ∧ f.mainBody = none) :=
      fun hnone => hsome ⟨isEmpty_of_within h hnone.1, hnone.2⟩
    refine ⟨_, by rw [value_generate, if_neg hsome'], ?_⟩
    rw [selected_eq f g g']

/-- Geometries that agree on the attributes which declared stage inputs require give the same
result, notices included.  With more attributes there is a text if there was one, with more stage
inputs at the most: those of the first are among those of the second, in order, and all else stays
as it is. -/
theorem generate_geometry
    (f : Definition)
    (c : Config)
    (g g' : Geometry) :
    ((∀ i, .stageInput i ∈ f.declarations → ∀ a ∈ i.required, g a = g' a) →
      f.generate c g = f.generate c g') ∧
    (g.Within g' →
      let i := (f.selected g).arranged.value
      let i' := (f.selected g').arranged.value
      i.stageInputs.Sublist i'.stageInputs ∧
      i' = { i with stageInputs := i'.stageInputs } ∧
      ∀ source, (f.generate c g).value = .ok source →
        ∃ source', (f.generate c g').value = .ok source' ∧
          source' = { source with code := source'.code } ∧
          (source.code = f.render c i ∧ source'.code = f.render c i') ∧
          ∃ before after,
            source.code = Text.trimNewlines
              (before ++ (inputSection i.stageInputs).render c.sectionComments ++ after) ++ "\n" ∧
            source'.code = Text.trimNewlines
              (before ++ (inputSection i'.stageInputs).render c.sectionComments ++ after) ++
                "\n") := by
  constructor
  · intro h
    have hselect : f.select g = f.select g' := by
      refine select_congr ?_
      intro d hd a ha
      cases d with
      | stageInput i => exact h i hd a ha
      | struct | uniformBlock | storageBlock | stageOutput => cases ha
    rw [generate, generate, hselect]
  · intro h i i'
    have hi' : i' = { i with stageInputs := i'.stageInputs } := arranged_selected f g g'
    refine ⟨stageInputs_sublist h, hi', ?_⟩
    intro source hsource
    obtain ⟨source', hsource', hrest⟩ := exists_generate_of_within h hsource
    have hcode : source.code = f.render c i := code_of_generate hsource
    have hcode' : source'.code = f.render c i' := code_of_generate hsource'
    obtain ⟨before, after, hrender⟩ := render_stageInputs f c i
    refine ⟨source', hsource', hrest, ⟨hcode, hcode'⟩, before, after, ?_, ?_⟩
    · exact hcode.trans (hrender i.stageInputs)
    · rw [hcode', hi']
      exact hrender i'.stageInputs

section Mesh

/-- A vertex stage that reads positions and, if there are any, normals. -/
def meshDefinition : Definition where
  stage := .vertex
  name := "Mesh"
  declarations :=
    [.stageInput (.ofAttribute .normal), .stageInput (.ofAttribute .position),
      .stageOutput ⟨0, ⟨"vec4"⟩, ⟨"shade"⟩, ⟨"flat"⟩, .single⟩]
  extensions := []
  mainBody := none

/-- Tangents change nothing, because no input requires them; normals bring the input back that
was left out in front. -/
theorem generate_geometry_mesh :
    let f := meshDefinition
    let bare := (AttributeSet.ofList [.position]).contains
    let tangents := (AttributeSet.ofList [.position, .tangent]).contains
    let normals := (AttributeSet.ofList [.position, .normal]).contains
    (∀ i, .stageInput i ∈ f.declarations → ∀ a ∈ i.required, bare a = tangents a) ∧
      f.generate default bare = f.generate default tangents ∧
      Geometry.Within bare normals ∧
      (∃ source, (f.generate default bare).value = .ok source) ∧
      (∃ source', (f.generate default normals).value = .ok source') ∧
      (f.selected bare).stageInputs = [.ofAttribute .position] ∧
      (f.selected normals).stageInputs = [.ofAttribute .normal, .ofAttribute .position] ∧
      (f.selected bare).stageInputs.Sublist (f.selected normals).stageInputs := by
  intro f bare tangents normals
  have hagree :
      ∀ i, .stageInput i ∈ f.declarations → ∀ a ∈ i.required, bare a = tangents a := by
    intro i hi a ha
    have hcases : i = .ofAttribute .normal ∨ i = .ofAttribute .position := by
      simpa [f, meshDefinition] using hi
    rcases hcases with rfl | rfl <;> cases ha <;> rfl
  have hwithin : Geometry.Within bare normals := by
    intro a
    cases a <;> decide
  obtain ⟨hsub, -, hsource⟩ := (generate_geometry f default bare normals).2 hwithin
  obtain ⟨source, hbare⟩ : ∃ source, (f.generate default bare).value = .ok source := ⟨_, rfl⟩
  obtain ⟨source', hnormals, -⟩ := hsource source hbare
  exact ⟨hagree, (generate_geometry f default bare tangents).1 hagree, hwithin,
    ⟨source, hbare⟩, ⟨source', hnormals⟩, by decide, by decide, hsub⟩

end Mesh

end Definition
end StageInterface
