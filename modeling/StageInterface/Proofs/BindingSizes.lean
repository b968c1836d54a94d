import Mathlib.Data.List.Forall2
import StageInterface.Proofs.Layout.Agreement
import StageInterface.Proofs.Selection
import StageInterface.Proofs.StructuresSection

/-!
# Sizes of bindings

A binding gives the size of its block as the block's own structures lay it out.
The text defines more structures: those of the other blocks and those that stand
alone, and the members of a block may use any of them.

**Results.**
* `forall₂_layoutIn_textScope`: a block is laid out as the text defines its
  types exactly when it has registered every structure that is met from its
  members, and its binding then has that size.
* `not_forall₂_byteSize_textScope`: otherwise the size can differ.
-/

namespace StageInterface

/-- The layout of the block's members when their types are found in the scope. -/
def Block.layoutIn
    (b : Block)
    (scope : Scope) :
    Noted LayoutWarning Placement :=
  layoutMembers b.policy scope b.name b.members

namespace Interface

/-- The uniform blocks and behind them the storage blocks. -/
def blocks
    (i : Interface) : List Block :=
  i.uniformBlocks.map UniformBlock.toBlock ++ i.storageBlocks.map StorageBlock.toBlock

/-- The structures that the text of the interface defines, under their names. -/
def textScope
    (i : Interface) : Scope where
  entries := i.arranged.value.structures.map (fun s => (s.name, s))
  nodup := by
    have hnodup := i.nodup_names_trace
    rw [DefinitionOrder.names_eq_map_snd, map_snd_trace] at hnodup
    rw [List.map_map]
    exact hnodup

theorem get?_textScope_iff
    {i : Interface}
    {n : Lexeme}
    {s : Structure} :
    i.textScope.get? n = some s ↔ s ∈ i.arranged.value.structures ∧ s.name = n := by
  rw [← OrderedMap.mem_entries_iff, textScope, List.mem_map]
  constructor
  · rintro ⟨s', hs', h⟩
    cases h
    exact ⟨hs', rfl⟩
  · rintro ⟨hs, rfl⟩
    exact ⟨s, hs, rfl⟩

theorem registers_of_get?_textScope
    {i : Interface}
    {n : Lexeme}
    {s : Structure}
    (hs : i.textScope.get? n = some s) :
    i.Registers s := by
  have hmem := (get?_textScope_iff.1 hs).1
  rw [← map_snd_trace] at hmem
  obtain ⟨e, he, rfl⟩ := List.mem_map.1 hmem
  exact (registers_of_mem_trace he).1

theorem registers_of_mem_blocks
    {i : Interface}
    {b : Block}
    (hb : b ∈ i.blocks)
    {s : Structure}
    (hs : s ∈ b.structures.values) :
    i.Registers s := by
  rw [blocks, List.mem_append, List.mem_map, List.mem_map] at hb
  rcases hb with ⟨u, hu, rfl⟩ | ⟨u, hu, rfl⟩
  · exact Or.inl ⟨u, hu, hs⟩
  · exact Or.inr (Or.inl ⟨u, hu, hs⟩)

/-- What a type name refers to does not depend on where it stands: blocks register structures under
their own names, no structure has the name of a built-in type, and no two of one name differ. -/
structure IsUnambiguous
    (i : Interface) : Prop where
  keys : ∀ b ∈ i.blocks, ∀ e ∈ b.structures.entries, e.1 = e.2.name
  builtin : ∀ s, i.Registers s → s.name.builtin? = none
  agree : ∀ s s', i.Registers s → i.Registers s' → s.name = s'.name → s = s'

/-- The text defines the structures of a block as they are. -/
theorem IsUnambiguous.isPart_textScope
    {i : Interface}
    (hi : i.IsUnambiguous)
    {b : Block}
    (hb : b ∈ i.blocks) :
    b.structures.IsPart i.textScope := by
  intro k s hs
  have hregisters := registers_of_mem_blocks hb (OrderedMap.mem_values_iff.2 ⟨k, hs⟩)
  have hname : s.name ∈ DefinitionOrder.names i.trace :=
    mem_names_trace_iff.2 ⟨s, hregisters, rfl⟩
  rw [DefinitionOrder.names_eq_map_snd, map_snd_trace] at hname
  obtain ⟨s', hs', hnames⟩ := List.mem_map.1 hname
  have htext : i.textScope.get? s'.name = some s' := get?_textScope_iff.2 ⟨hs', rfl⟩
  have heq := hi.agree s' s (registers_of_get?_textScope htext) hregisters hnames
  have hkey : k = s.name := hi.keys b hb (k, s) (OrderedMap.mem_entries_iff.2 hs)
  rw [hkey, ← heq]
  exact htext

end Interface

/-- The bindings of the uniform blocks and behind them those of the storage blocks. -/
def StageSource.bindings
    (s : StageSource) : List BlockBinding :=
  s.uniformBlocks ++ s.storageBlocks

namespace Definition

variable {f : Definition}
variable {c : Config}
variable {g : Geometry}
variable {source : StageSource}

theorem eq_of_generate
    (h : (f.generate c g).value = .ok source) :
    source.code = f.render c (f.selected g).arranged.value ∧
      source.bindings = (f.selected g).blocks.map (fun b => b.summary.value) := by
  refine ⟨code_of_generate h, ?_⟩
  rw [value_generate] at h
  split at h
  · cases h
  · cases h
    simp [StageSource.bindings, Interface.blocks, Function.comp_def]

/-- A block is laid out as the text defines the types of its members, with the same warnings,
exactly when it has registered every structure of the text that is met from them, which is when no
warning is about a type that the text defines; its binding then has the size of that layout. -/
theorem forall₂_layoutIn_textScope
    (hsource : (f.generate c g).value = .ok source)
    (hnames : (f.selected g).IsUnambiguous)
    (hnest : ∀ s, (f.selected g).Registers s →
      DefinitionOrder.NestsWithin [] (f.selected g).textScope 16 s) :
    source.code = f.render c (f.selected g).arranged.value ∧
    List.Forall₂
      (fun b e =>
        (b.layout = b.layoutIn (f.selected g).textScope ↔
          b.structures.Covers (f.selected g).textScope b.members.values) ∧
        (b.structures.Covers (f.selected g).textScope b.members.values ↔
          ∀ w ∈ b.layout.notices, ¬ w.Misses (f.selected g).textScope) ∧
        (b.structures.Covers (f.selected g).textScope b.members.values →
          e.byteSize = (b.layoutIn (f.selected g).textScope).value.footprint.size))
      (f.selected g).blocks source.bindings := by
  obtain ⟨hcode, hbindings⟩ := eq_of_generate hsource
  refine ⟨hcode, ?_⟩
  rw [hbindings, List.forall₂_map_right_iff, List.forall₂_same]
  intro b hb
  have hpart := hnames.isPart_textScope hb
  have hmembers : ∀ m ∈ b.members.values,
      m.NestsWithin (f.selected g).textScope Structure.nestingLimit :=
    fun m _ _ s hs => hnest s (Interface.registers_of_get?_textScope hs)
  have hiff : b.layout = b.layoutIn (f.selected g).textScope ↔
      b.structures.Covers (f.selected g).textScope b.members.values :=
    placeMembers_eq_iff b.policy hpart b.name hmembers
  refine ⟨hiff, covers_iff_not_misses b.policy hpart b.name hmembers, ?_⟩
  intro hcovers
  rw [← hiff.2 hcovers]
  rfl

section Drawing

/-- A structure that stands alone. -/
def materialData : Structure where
  name := ⟨"MaterialData"⟩
  members := OrderedMap.empty.insert ⟨"albedo"⟩ (.single ⟨"vec4"⟩ ⟨"albedo"⟩)

/-- A structure that uses it. -/
def scene : Structure where
  name := ⟨"Scene"⟩
  members := OrderedMap.empty.insert ⟨"material"⟩ (.single ⟨"MaterialData"⟩ ⟨"material"⟩)

/-- A block of one scene that registers the given structures under their names. -/
def frame
    (structures : List Structure) : UniformBlock where
  set := 0
  binding := 0
  policy := .std140
  name := ⟨"Frame"⟩
  instanceName := .absent
  extent := .single
  members := OrderedMap.empty.insert ⟨"scene"⟩ (.single ⟨"Scene"⟩ ⟨"scene"⟩)
  structures := OrderedMap.ofList (structures.map (fun s => (s.name, s)))

/-- The block beside the structure that stands alone. -/
def drawing
    (structures : List Structure) : Definition where
  stage := .fragment
  name := "Standalone"
  declarations := [.uniformBlock (frame structures), .struct materialData]
  extensions := []
  mainBody := none

variable {structures : List Structure}

theorem mem_of_registers_drawing
    {s : Structure}
    (hs : ((drawing structures).selected (fun _ => false)).Registers s) :
    s ∈ (frame structures).structures.values ++ [materialData] := by
  rcases hs with ⟨b, hb, hs⟩ | ⟨b, hb, -⟩ | hs
  · rw [List.mem_singleton.1 hb] at hs
    exact List.mem_append_left _ hs
  · exact absurd hb List.not_mem_nil
  · exact List.mem_append_right _ hs

theorem isUnambiguous_drawing
    (hkeys : ∀ e ∈ (frame structures).structures.entries, e.1 = e.2.name)
    (hvalues : ∀ s ∈ (frame structures).structures.values ++ [materialData],
      s = scene ∨ s = materialData) :
    ((drawing structures).selected (fun _ => false)).IsUnambiguous where
  keys := by
    intro b hb
    rw [List.mem_singleton.1 hb]
    exact hkeys
  builtin := by
    intro s hs
    rcases hvalues s (mem_of_registers_drawing hs) with rfl | rfl <;> decide +kernel
  agree := by
    intro s s' hs hs'
    rcases hvalues s (mem_of_registers_drawing hs) with rfl | rfl <;>
      rcases hvalues s' (mem_of_registers_drawing hs') with rfl | rfl <;> decide +kernel

theorem exists_binding_drawing
    {r : Block → BlockBinding → Prop}
    {l : List BlockBinding}
    (h : List.Forall₂ r ((drawing structures).selected (fun _ => false)).blocks l) :
    ∃ e, l = [e] ∧ r (frame structures).toBlock e := by
  have hblocks : ((drawing structures).selected (fun _ => false)).blocks =
      [(frame structures).toBlock] := rfl
  rw [hblocks, List.forall₂_cons_left_iff] at h
  obtain ⟨e, rest, hr, hrest, rfl⟩ := h
  rw [List.forall₂_nil_left_iff] at hrest
  exact ⟨e, by rw [hrest], hr⟩

end Drawing

/-- A block that registers both structures has the size of its text. -/
theorem forall₂_layoutIn_textScope_drawing :
    let f := drawing [scene, materialData]
    let g : Geometry := fun _ => false
    ∃ source, (f.generate default g).value = .ok source ∧
      (f.selected g).IsUnambiguous ∧
      (∀ s, (f.selected g).Registers s →
        DefinitionOrder.NestsWithin [] (f.selected g).textScope 16 s) ∧
      ∃ e, source.bindings = [e] ∧ e.byteSize = 16 := by
  intro f g
  obtain ⟨source, hsource⟩ : ∃ source, (f.generate default g).value = .ok source := ⟨_, rfl⟩
  have hnames : (f.selected g).IsUnambiguous :=
    isUnambiguous_drawing (by decide +kernel) (by decide +kernel)
  have hall : ∀ s ∈ (frame [scene, materialData]).structures.values ++ [materialData],
      DefinitionOrder.NestsWithin [] (f.selected g).textScope 16 s := by
    decide +kernel
  have hnest := fun s hs => hall s (mem_of_registers_drawing hs)
  obtain ⟨e, hbindings, hiff, -, hsize⟩ :=
    exists_binding_drawing (forall₂_layoutIn_textScope hsource hnames hnest).2
  have hlayout : (frame [scene, materialData]).toBlock.layout =
      (frame [scene, materialData]).layoutIn (f.selected g).textScope :=
    Noted.ext (by decide +kernel) (by decide +kernel)
  refine ⟨source, hsource, hnames, hnest, e, hbindings, ?_⟩
  rw [hsize (hiff.1 hlayout)]
  decide +kernel

/-- A block may leave a structure to stand alone.  The text then defines it, and the binding takes
it for nothing. -/
theorem not_forall₂_byteSize_textScope :
    ¬ ∀ (f : Definition) (c : Config) (g : Geometry) (source : StageSource),
      (f.generate c g).value = .ok source →
      (f.selected g).IsUnambiguous →
      (∀ s, (f.selected g).Registers s →
        DefinitionOrder.NestsWithin [] (f.selected g).textScope 16 s) →
      List.Forall₂
        (fun b e => e.byteSize = (b.layoutIn (f.selected g).textScope).value.footprint.size)
        (f.selected g).blocks source.bindings := by
  intro h
  let f := drawing [scene]
  let g : Geometry := fun _ => false
  obtain ⟨source, hsource⟩ : ∃ source, (f.generate default g).value = .ok source := ⟨_, rfl⟩
  have hnames : (f.selected g).IsUnambiguous :=
    isUnambiguous_drawing (by decide +kernel) (by decide +kernel)
  have hall : ∀ s ∈ (frame [scene]).structures.values ++ [materialData],
      DefinitionOrder.NestsWithin [] (f.selected g).textScope 16 s := by
    decide +kernel
  have hnest := fun s hs => hall s (mem_of_registers_drawing hs)
  obtain ⟨e, hbindings, hsize⟩ :=
    exists_binding_drawing (h f default g source hsource hnames hnest)
  have hone := (eq_of_generate hsource).2
  rw [hbindings] at hone
  have he : e = (frame [scene]).toBlock.summary.value := List.head_eq_of_cons_eq hone
  rw [he] at hsize
  exact absurd hsize (by decide +kernel)

end Definition
end StageInterface
