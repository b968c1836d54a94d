import Mathlib.Data.Prod.Basic
import StageInterface.Proofs.Rendering.Pieces
import StageInterface.Proofs.Selection
import StageInterface.Proofs.StructuresSection

/-!
# Interfaces from texts

Definitions of the same stage with the same name and extensions that give the
same text have written the same: the same structures, stage variables and blocks
in the same order, and the same main body up to the newlines at its end.  What
was declared but not selected, the keys of members and the scopes of blocks may
differ, as nothing of them is in the text.

**Results.**
* `Definition.IsSpelled.arranged`: whatever is written is called by words if
  everything declared is.
* `Definition.exists_pieces_eq`: equal texts are equal behind their headers, up
  to newlines at the end.
* `Definition.emitted_eq_of_code_eq`: equal texts show equal interfaces.
-/

namespace StageInterface

section Spelling

/-- The structure and its members have words for names. -/
structure Structure.IsSpelled
    (s : Structure) : Prop where
  name : s.name.IsWord
  members : ∀ m ∈ s.members.values, m.IsSpelled

instance (s : Structure) : Decidable s.IsSpelled :=
  decidable_of_iff (s.name.IsWord ∧ ∀ m ∈ s.members.values, m.IsSpelled)
    ⟨fun h => ⟨h.1, h.2⟩, fun h => ⟨h.name, h.members⟩⟩

/-- The block, its members and the structures that it brings along have words for names, and so has
its instance if it has one. -/
structure Block.IsSpelled
    (b : Block) : Prop where
  name : b.name.IsWord
  members : ∀ m ∈ b.members.values, m.IsSpelled
  instanceName : b.instanceName ≠ .absent → b.instanceName.IsWord
  structures : ∀ s ∈ b.structures.values, s.IsSpelled

instance (b : Block) : Decidable b.IsSpelled :=
  decidable_of_iff
    (b.name.IsWord ∧ (∀ m ∈ b.members.values, m.IsSpelled) ∧
      (b.instanceName ≠ .absent → b.instanceName.IsWord) ∧
      ∀ s ∈ b.structures.values, s.IsSpelled)
    ⟨fun h => ⟨h.1, h.2.1, h.2.2.1, h.2.2.2⟩,
      fun h => ⟨h.name, h.members, h.instanceName, h.structures⟩⟩

/-- Everything that the declaration calls by name is called by a word. -/
def Declaration.IsSpelled : Declaration → Prop
  | struct s => s.IsSpelled
  | stageInput i => i.toStageVariable.IsSpelled
  | uniformBlock b => b.toBlock.IsSpelled
  | storageBlock b => b.toBlock.IsSpelled
  | stageOutput o => o.toStageVariable.IsSpelled

instance : DecidablePred Declaration.IsSpelled
  | .struct s => inferInstanceAs (Decidable s.IsSpelled)
  | .stageInput i => inferInstanceAs (Decidable i.toStageVariable.IsSpelled)
  | .uniformBlock b => inferInstanceAs (Decidable b.toBlock.IsSpelled)
  | .storageBlock b => inferInstanceAs (Decidable b.toBlock.IsSpelled)
  | .stageOutput o => inferInstanceAs (Decidable o.toStageVariable.IsSpelled)

def Definition.IsSpelled
    (f : Definition) : Prop :=
  ∀ d ∈ f.declarations, d.IsSpelled

instance (f : Definition) : Decidable f.IsSpelled :=
  inferInstanceAs (Decidable (∀ d ∈ f.declarations, d.IsSpelled))

structure Interface.IsSpelled
    (i : Interface) : Prop where
  structures : ∀ s ∈ i.structures, s.IsSpelled
  stageInputs : ∀ v ∈ i.stageInputs, v.toStageVariable.IsSpelled
  uniformBlocks : ∀ b ∈ i.uniformBlocks, b.toBlock.IsSpelled
  storageBlocks : ∀ b ∈ i.storageBlocks, b.toBlock.IsSpelled
  stageOutputs : ∀ v ∈ i.stageOutputs, v.toStageVariable.IsSpelled

/-- A selection of declarations with words for names. -/
theorem Interface.isSpelled_ofList
    {l : List Declaration}
    (h : ∀ d ∈ l, d.IsSpelled) :
    (Interface.ofList l).IsSpelled := by
  have hselect : ∀ {α : Type} {take? : Declaration → Option α} {p : α → Prop},
      (∀ d, d.IsSpelled → ∀ a ∈ take? d, p a) → ∀ a ∈ l.filterMap take?, p a := by
    intro α take? p htake a ha
    obtain ⟨d, hd, hda⟩ := List.mem_filterMap.1 ha
    exact htake d (h d hd) a hda
  constructor <;> refine hselect ?_ <;> intro d hd a ha <;> cases d <;> cases ha <;> exact hd

/-- The structures that an interface registers are all that stand in its structures section. -/
theorem Interface.IsSpelled.arranged
    {i : Interface}
    (h : i.IsSpelled) :
    i.arranged.value.IsSpelled := by
  refine ⟨?_, h.stageInputs, h.uniformBlocks, h.storageBlocks, h.stageOutputs⟩
  intro s hs
  rw [← map_snd_trace] at hs
  obtain ⟨e, he, rfl⟩ := List.mem_map.1 hs
  rcases (registers_of_mem_trace he).1 with ⟨b, hb, hs⟩ | ⟨b, hb, hs⟩ | hs
  · exact (h.uniformBlocks b hb).structures e.2 hs
  · exact (h.storageBlocks b hb).structures e.2 hs
  · exact h.structures e.2 hs

theorem Definition.IsSpelled.arranged
    {f : Definition}
    (h : f.IsSpelled)
    (g : Geometry) :
    (f.selected g).arranged.value.IsSpelled :=
  (Interface.isSpelled_ofList (fun d hd => h d (List.mem_filter.1 hd).1)).arranged

end Spelling

section Qualifiers

theorem MemoryQualifier.isWord_keyword
    (m : MemoryQualifier) :
    Text.IsWord m.keyword := by
  cases m <;> decide

theorem MemoryQualifier.keyword_injective :
    Function.Injective MemoryQualifier.keyword := by
  intro m n h
  cases m <;> cases n <;> first | rfl | exact absurd h (by decide)

namespace MemoryQualifiers

theorem isWord_of_mem_keywords
    {q : MemoryQualifiers}
    {w : String}
    (hw : w ∈ q.keywords) :
    Text.IsWord w := by
  obtain ⟨m, -, rfl⟩ := List.mem_map.1 hw
  exact m.isWord_keyword

theorem keyword_mem_keywords_iff
    {q : MemoryQualifiers}
    {m : MemoryQualifier} :
    m.keyword ∈ q.keywords ↔ q.contains m = true := by
  have hall : m ∈ MemoryQualifier.all := by
    cases m <;> decide
  rw [keywords, List.mem_map_of_injective MemoryQualifier.keyword_injective, List.mem_filter]
  exact and_iff_right hall

/-- The words of a set of qualifiers tell the set. -/
theorem keywords_injective :
    Function.Injective MemoryQualifiers.keywords := by
  intro q q' h
  have hcontains : ∀ m, q.contains m = q'.contains m := by
    intro m
    rw [Bool.eq_iff_iff, ← keyword_mem_keywords_iff, h, keyword_mem_keywords_iff]
  have hbits : q.bits = q'.bits := by
    refine BitVec.eq_of_getLsbD_eq ?_
    intro k hk
    match k, hk with
    | 0, _ => exact hcontains .coherent
    | 1, _ => exact hcontains .volatile
    | 2, _ => exact hcontains .restrict
    | 3, _ => exact hcontains .readonly
    | 4, _ => exact hcontains .writeonly
  cases q
  cases q'
  exact congrArg MemoryQualifiers.mk hbits

end MemoryQualifiers

end Qualifiers

section Outlines

theorem Structure.IsSpelled.outline
    {s : Structure}
    (h : s.IsSpelled) :
    s.outline.IsSpelled :=
  ⟨h.name, h.members⟩

theorem Block.IsSpelled.outline
    {b : Block}
    (h : b.IsSpelled)
    {qualifiers : List String}
    (hqualifiers : ∀ w ∈ qualifiers, Text.IsWord w)
    {keyword : String}
    (hkeyword : Text.IsWord keyword) :
    (Outline.block b.outline qualifiers keyword).IsSpelled := by
  refine ⟨h.name, h.members, ?_, hqualifiers, hkeyword⟩
  intro e he
  obtain ⟨name, hname, rfl⟩ := Option.map_eq_some_iff.1 he
  obtain ⟨rfl, hpresent⟩ := Lexeme.present?_eq_some_iff.1 hname
  exact h.instanceName hpresent

theorem Interface.IsSpelled.outlines
    {i : Interface}
    (h : i.IsSpelled) :
    ∀ o ∈ i.outlines, o.IsSpelled := by
  intro o ho
  simp only [Interface.outlines, chapters, List.flatMap_cons, List.flatMap_nil, List.append_nil,
    List.mem_append, List.mem_map] at ho
  rcases ho with ⟨s, hs, rfl⟩ | ⟨v, hv, rfl⟩ | ⟨b, hb, rfl⟩ | ⟨b, hb, rfl⟩ | ⟨v, hv, rfl⟩
  · exact (h.structures s hs).outline
  · exact ⟨h.stageInputs v hv, by decide⟩
  · exact (h.uniformBlocks b hb).outline (by simp) (by decide)
  · exact (h.storageBlocks b hb).outline
      (fun _ => MemoryQualifiers.isWord_of_mem_keywords) (by decide)
  · exact ⟨h.stageOutputs v hv, by decide⟩

namespace Outline

def struct? : Outline → Option (Lexeme × List Member)
  | struct name members => some (name, members)
  | _ => none

def stageVariable?
    (direction : String) : Outline → Option StageVariable
  | stageVariable v direction' => if direction' = direction then some v else none
  | _ => none

def block?
    (keyword : String) : Outline → Option (BlockOutline × List String)
  | block b qualifiers keyword' => if keyword' = keyword then some (b, qualifiers) else none
  | _ => none

end Outline

namespace Interface

/-- The outlines of an interface that a selection picks out, section by section. -/
theorem filterMap_outlines
    {α : Type}
    (select? : Outline → Option α)
    (i : Interface) :
    i.outlines.filterMap select? =
      i.structures.filterMap (select? ∘ Structure.outline) ++
        (i.stageInputs.filterMap (select? ∘ StageInput.outline) ++
          (i.uniformBlocks.filterMap (select? ∘ UniformBlock.outline) ++
            (i.storageBlocks.filterMap (select? ∘ StorageBlock.outline) ++
              i.stageOutputs.filterMap (select? ∘ StageOutput.outline)))) := by
  simp [outlines, chapters]

theorem filterMap_struct?
    (i : Interface) :
    i.outlines.filterMap Outline.struct? =
      i.structures.map (fun s => (s.name, s.members.values)) := by
  rw [filterMap_outlines]
  simp [Function.comp_def, Structure.outline, StageInput.outline, UniformBlock.outline,
    StorageBlock.outline, StageOutput.outline, Outline.struct?]

theorem filterMap_stageVariable?_in
    (i : Interface) :
    i.outlines.filterMap (Outline.stageVariable? "in") =
      i.stageInputs.map StageInput.toStageVariable := by
  rw [filterMap_outlines]
  simp [Function.comp_def, Structure.outline, StageInput.outline, UniformBlock.outline,
    StorageBlock.outline, StageOutput.outline, Outline.stageVariable?]

theorem filterMap_stageVariable?_out
    (i : Interface) :
    i.outlines.filterMap (Outline.stageVariable? "out") =
      i.stageOutputs.map StageOutput.toStageVariable := by
  rw [filterMap_outlines]
  simp [Function.comp_def, Structure.outline, StageInput.outline, UniformBlock.outline,
    StorageBlock.outline, StageOutput.outline, Outline.stageVariable?]

theorem filterMap_block?_uniform
    (i : Interface) :
    i.outlines.filterMap (Outline.block? "uniform") =
      i.uniformBlocks.map (fun b => (b.toBlock.outline, [])) := by
  rw [filterMap_outlines]
  simp [Function.comp_def, Structure.outline, StageInput.outline, UniformBlock.outline,
    StorageBlock.outline, StageOutput.outline, Outline.block?]

theorem filterMap_block?_buffer
    (i : Interface) :
    i.outlines.filterMap (Outline.block? "buffer") =
      i.storageBlocks.map (fun b => (b.toBlock.outline, b.qualifiers.keywords)) := by
  rw [filterMap_outlines]
  simp [Function.comp_def, Structure.outline, StageInput.outline, UniformBlock.outline,
    StorageBlock.outline, StageOutput.outline, Outline.block?]

/-- The interfaces agree in all that is written of them, in the same order. -/
structure WrittenAlike
    (i i' : Interface) : Prop where
  structures :
    i.structures.map (fun s => (s.name, s.members.values)) =
      i'.structures.map (fun s => (s.name, s.members.values))
  stageInputs :
    i.stageInputs.map StageInput.toStageVariable = i'.stageInputs.map StageInput.toStageVariable
  uniformBlocks :
    i.uniformBlocks.map (fun b => b.toBlock.outline) =
      i'.uniformBlocks.map (fun b => b.toBlock.outline)
  storageBlocks :
    i.storageBlocks.map (fun b => (b.toBlock.outline, b.qualifiers)) =
      i'.storageBlocks.map (fun b => (b.toBlock.outline, b.qualifiers))
  stageOutputs :
    i.stageOutputs.map StageOutput.toStageVariable =
      i'.stageOutputs.map StageOutput.toStageVariable

theorem writtenAlike_of_outlines_eq
    {i i' : Interface}
    (h : i.outlines = i'.outlines) :
    i.WrittenAlike i' := by
  have hselect : ∀ {α : Type} (select? : Outline → Option α),
      i.outlines.filterMap select? = i'.outlines.filterMap select? :=
    fun select? => congrArg (List.filterMap select?) h
  constructor
  · rw [← filterMap_struct?, hselect, filterMap_struct?]
  · rw [← filterMap_stageVariable?_in, hselect, filterMap_stageVariable?_in]
  · -- Uniform blocks have no qualifiers to compare.
    have huniforms := hselect (Outline.block? "uniform")
    rw [filterMap_block?_uniform, filterMap_block?_uniform] at huniforms
    simpa [Function.comp_def] using congrArg (List.map Prod.fst) huniforms
  · have hstorages := hselect (Outline.block? "buffer")
    rw [filterMap_block?_buffer, filterMap_block?_buffer] at hstorages
    have hwords : Function.Injective (Prod.map (id : BlockOutline → BlockOutline)
        MemoryQualifiers.keywords) :=
      Function.injective_id.prodMap MemoryQualifiers.keywords_injective
    refine List.map_injective_iff.2 hwords ?_
    rwa [List.map_map, List.map_map]
  · rw [← filterMap_stageVariable?_out, hselect, filterMap_stageVariable?_out]

end Interface

end Outlines

namespace Definition

/-- Texts with equal headers are equal behind them, up to the newlines at their ends. -/
theorem exists_pieces_eq
    {f f' : Definition}
    {c : Config}
    {i i' : Interface}
    (hheader : f.header c = f'.header c)
    (h : f.render c i = f'.render c i') :
    ∃ k k',
      (i.pieces c.sectionComments).flatMap Piece.write ++
          ((renderMain f.mainBody).toList ++ List.replicate k '\n') =
        (i'.pieces c.sectionComments).flatMap Piece.write ++
          ((renderMain f'.mainBody).toList ++ List.replicate k' '\n') := by
  have htrim := String.toList_inj.2 h
  rw [render, render, String.toList_append, String.toList_append] at htrim
  obtain ⟨k, k', heq⟩ := Text.exists_append_newlines_eq
    (String.toList_inj.1 (List.append_cancel_right htrim))
  refine ⟨k, k', ?_⟩
  simp only [String.toList_append, Interface.toList_sections, hheader, List.append_assoc] at heq
  exact List.append_cancel_left heq

/-- Texts of one stage, name and list of extensions that are equal show the same structures, stage
variables and blocks in the same order, and the same main body up to newlines at its end, whatever
geometries they were generated for. -/
theorem emitted_eq_of_code_eq
    {f f' : Definition}
    (hstage : f.stage = f'.stage)
    (hname : f.name = f'.name)
    (hextensions : f.extensions = f'.extensions)
    (hf : f.IsSpelled)
    (hf' : f'.IsSpelled)
    {c : Config}
    {g g' : Geometry}
    {source source' : StageSource}
    (hsource : (f.generate c g).value = .ok source)
    (hsource' : (f'.generate c g').value = .ok source')
    (hcode : source.code = source'.code) :
    let i := (f.selected g).arranged.value
    let i' := (f'.selected g').arranged.value
    (source.code = f.render c i ∧ source'.code = f'.render c i') ∧
      i.WrittenAlike i' ∧
      f.mainBody.map Text.trimNewlines = f'.mainBody.map Text.trimNewlines := by
  intro i i'
  have hrender : source.code = f.render c i := code_of_generate hsource
  have hrender' : source'.code = f'.render c i' := code_of_generate hsource'
  have hheader : f.header c = f'.header c := by
    unfold header
    rw [hstage, hname, hextensions]
  -- Newlines that one text ends in and the other does not may come from its last section, so they
  -- are put back before the pieces are compared.
  obtain ⟨k, k', heq⟩ :=
    exists_pieces_eq hheader (hrender.symm.trans (hcode.trans hrender'))
  obtain ⟨hpieces, hmain⟩ := Piece.outlines_eq_of_text_eq
    (Interface.isSpelled_pieces c.sectionComments (hf.arranged g).outlines)
    (Interface.isSpelled_pieces c.sectionComments (hf'.arranged g').outlines) heq
  rw [Interface.filterMap_pieces, Interface.filterMap_pieces] at hpieces
  exact ⟨⟨hrender, hrender'⟩, Interface.writtenAlike_of_outlines_eq hpieces, hmain⟩

section Sprite

def sprite : Structure where
  name := ⟨"Sprite"⟩
  members := OrderedMap.empty.insert ⟨"tint"⟩ (.single ⟨"vec4"⟩ ⟨"tint"⟩)

def spriteView : UniformBlock where
  set := 0
  binding := 1
  policy := .std140
  name := ⟨"View"⟩
  instanceName := ⟨"view"⟩
  extent := .single
  members := OrderedMap.empty.insert ⟨"camera"⟩ (.single ⟨"mat4"⟩ ⟨"camera"⟩)
  structures := .empty

/-- The sprites, which may bring their structure along under any key. -/
def spriteTable
    (structures : Scope) : StorageBlock where
  set := 0
  binding := 2
  policy := .std430
  name := ⟨"Sprites"⟩
  instanceName := .absent
  extent := .single
  members := OrderedMap.empty.insert ⟨"sprites"⟩ ⟨⟨"Sprite"⟩, ⟨"sprites"⟩, .runtime⟩
  structures
  qualifiers := .ofBits 9

def spriteOutput : StageOutput where
  location := 0
  type := ⟨"vec4"⟩
  name := ⟨"tint"⟩
  interpolation := ⟨"flat"⟩
  extent := .single

/-- A vertex stage whose structure stands alone. -/
def spriteDefinition : Definition where
  stage := .vertex
  name := "Sprites"
  declarations :=
    [.struct sprite, .stageInput (.ofAttribute .position), .uniformBlock spriteView,
      .storageBlock (spriteTable .empty), .stageOutput spriteOutput]
  extensions := []
  mainBody := some "\ttint = sprites[0].tint;"

/-- A vertex stage that would also read normals, and whose structure comes with a block. -/
def spriteDefinition' : Definition where
  stage := .vertex
  name := "Sprites"
  declarations :=
    [.stageOutput spriteOutput,
      .storageBlock (spriteTable (OrderedMap.empty.insert ⟨"key"⟩ sprite)),
      .stageInput (.ofAttribute .normal), .uniformBlock spriteView,
      .stageInput (.ofAttribute .position)]
  extensions := []
  mainBody := some "\ttint = sprites[0].tint;\n\n"

/-- The text has nothing of a structure that was brought along, nor of the newlines at the end of
the main body, nor of the input that the geometry does not provide. -/
theorem emitted_eq_of_code_eq_sprite :
    let f := spriteDefinition
    let f' := spriteDefinition'
    let g := (AttributeSet.ofList [.position]).contains
    f ≠ f' ∧ f.IsSpelled ∧ f'.IsSpelled ∧
      ∃ source source',
        (f.generate default g).value = .ok source ∧ (f'.generate default g).value = .ok source' ∧
        source.code = source'.code ∧
        (f.selected g).arranged.value.WrittenAlike (f'.selected g).arranged.value ∧
        f.mainBody.map Text.trimNewlines = f'.mainBody.map Text.trimNewlines := by
  intro f f' g
  have hstage : f.stage = f'.stage := rfl
  have hname : f.name = f'.name := rfl
  have hextensions : f.extensions = f'.extensions := rfl
  have hspelled : f.IsSpelled := by decide +kernel
  have hspelled' : f'.IsSpelled := by decide +kernel
  obtain ⟨source, hsource⟩ : ∃ source, (f.generate default g).value = .ok source := ⟨_, rfl⟩
  obtain ⟨source', hsource'⟩ : ∃ source', (f'.generate default g).value = .ok source' := ⟨_, rfl⟩
  have hsections :
      (f.selected g).arranged.value.sections = (f'.selected g).arranged.value.sections := rfl
  have hmain : renderMain f.mainBody = renderMain f'.mainBody := by decide +kernel
  have hcode : source.code = source'.code := by
    rw [code_of_generate hsource, code_of_generate hsource']
    unfold render
    rw [hsections, hmain]
    rfl
  obtain ⟨-, halike, hbodies⟩ := emitted_eq_of_code_eq hstage hname hextensions hspelled hspelled'
    hsource hsource' hcode
  exact ⟨by decide, hspelled, hspelled', source, source', hsource, hsource', hcode, halike,
    hbodies⟩

end Sprite

end Definition
end StageInterface
