import StageInterface.Proofs.DefinitionOrder.Nesting
import StageInterface.Rendering

/-!
# The structures section

The first section of a stage's text holds the definitions of the structures
that its blocks register and of those that stand alone.

**Results.**
* `structuresSection_complete`: it defines the name of every such structure, and
  no name twice, whatever uses what.
* `structuresSection_dependencies_first`: while structures nest at most sixteen
  deep, each definition stands behind those that it uses.
-/

namespace StageInterface
namespace Interface

/-- The structure is registered in a block of the interface or stands alone in it. -/
def Registers
    (i : Interface)
    (s : Structure) : Prop :=
  (∃ b ∈ i.uniformBlocks, s ∈ b.structures.values) ∨
    (∃ b ∈ i.storageBlocks, s ∈ b.structures.values) ∨
    s ∈ i.structures

theorem mem_ofScope_iff
    {scope scope' : Scope}
    {s : Structure} :
    (scope', s) ∈ DefinitionOrder.ofScope scope ↔ scope' = scope ∧ s ∈ scope.values := by
  simp only [DefinitionOrder.ofScope, List.mem_map, Prod.mk.injEq]
  constructor
  · rintro ⟨s', hs', rfl, rfl⟩
    exact ⟨rfl, hs'⟩
  · rintro ⟨rfl, hs⟩
    exact ⟨s, hs, rfl, rfl⟩

/-- A structure is registered in the scope of a block, or stands alone outside all of them. -/
theorem mem_registered_iff
    {i : Interface}
    {scope : Scope}
    {s : Structure} :
    (scope, s) ∈ i.registered ↔
      (∃ b ∈ i.uniformBlocks, scope = b.structures ∧ s ∈ b.structures.values) ∨
        (∃ b ∈ i.storageBlocks, scope = b.structures ∧ s ∈ b.structures.values) ∨
        (scope = .empty ∧ s ∈ i.structures) := by
  simp only [registered, List.mem_append, List.mem_flatMap, mem_ofScope_iff, List.mem_map,
    Prod.mk.injEq, or_assoc]
  refine or_congr Iff.rfl (or_congr Iff.rfl ?_)
  constructor
  · rintro ⟨s', hs', rfl, rfl⟩
    exact ⟨rfl, hs'⟩
  · rintro ⟨rfl, hs⟩
    exact ⟨s, hs, rfl, rfl⟩

theorem registers_iff
    {i : Interface}
    {s : Structure} :
    i.Registers s ↔ ∃ scope, (scope, s) ∈ i.registered := by
  simp only [mem_registered_iff]
  constructor
  · rintro (⟨b, hb, hs⟩ | ⟨b, hb, hs⟩ | hs)
    · exact ⟨b.structures, Or.inl ⟨b, hb, rfl, hs⟩⟩
    · exact ⟨b.structures, Or.inr (Or.inl ⟨b, hb, rfl, hs⟩)⟩
    · exact ⟨.empty, Or.inr (Or.inr ⟨rfl, hs⟩)⟩
  · rintro ⟨scope, ⟨b, hb, -, hs⟩ | ⟨b, hb, -, hs⟩ | ⟨-, hs⟩⟩
    · exact Or.inl ⟨b, hb, hs⟩
    · exact Or.inr (Or.inl ⟨b, hb, hs⟩)
    · exact Or.inr (Or.inr hs)

theorem registers_iff_mem
    {i : Interface}
    {s : Structure} :
    i.Registers s ↔ s ∈ i.registered.map Prod.snd := by
  rw [registers_iff, List.mem_map]
  constructor
  · rintro ⟨scope, hr⟩
    exact ⟨(scope, s), hr, rfl⟩
  · rintro ⟨r, hr, rfl⟩
    exact ⟨r.1, hr⟩

instance (i : Interface) (s : Structure) : Decidable (i.Registers s) :=
  decidable_of_iff _ registers_iff_mem.symm

/-- The structures of an interface in the order of their definitions, each with the scope under
which it was written. -/
def trace (i : Interface) : List (Scope × Structure) :=
  DefinitionOrder.trace i.structures i.registered

theorem map_snd_trace
    (i : Interface) :
    i.trace.map Prod.snd = i.arranged.value.structures :=
  DefinitionOrder.map_snd_trace i.structures i.registered

theorem sections_arranged
    (i : Interface) :
    ∃ rest, i.arranged.value.sections =
      ⟨"Structures", String.join (i.trace.map (fun e => e.2.source))⟩ :: rest := by
  have hcode :
      Structure.sources i.arranged.value.structures =
        String.join (i.trace.map (fun e => e.2.source)) := by
    rw [Structure.sources, ← map_snd_trace, List.map_map]
    rfl
  exact ⟨i.arranged.value.sections.tail, by rw [← hcode]; rfl⟩

/-- A type name refers to nothing but registered structures. -/
theorem registers_of_lookup?
    {i : Interface}
    {scope : Scope}
    {s s' : Structure}
    {type : Lexeme}
    (hr : (scope, s) ∈ i.registered)
    (hs' : DefinitionOrder.lookup? i.structures scope type = some s') :
    i.Registers s' := by
  rcases Option.or_eq_some_iff.1 hs' with hscope | ⟨-, hfind⟩
  · have hvalues : s' ∈ scope.values := OrderedMap.mem_values_iff.2 ⟨type, hscope⟩
    rcases mem_registered_iff.1 hr with ⟨b, hb, rfl, -⟩ | ⟨b, hb, rfl, -⟩ | ⟨rfl, -⟩
    · exact Or.inl ⟨b, hb, hvalues⟩
    · exact Or.inr (Or.inl ⟨b, hb, hvalues⟩)
    · simp at hvalues
  · exact Or.inr (Or.inr (List.mem_of_find?_eq_some hfind))

/-- What a trace writes is registered, and written under a scope of registration. -/
theorem registers_of_mem_trace
    {i : Interface}
    {e : Scope × Structure}
    (he : e ∈ i.trace) :
    i.Registers e.2 ∧ ∃ s, (e.1, s) ∈ i.registered := by
  obtain ⟨⟨scope, s⟩, hr, hscope, hknown⟩ :=
    (DefinitionOrder.growth_trace i.structures i.registered).allowed_of_mem he
  refine ⟨?_, s, hscope ▸ hr⟩
  rcases hknown with hself | ⟨type, htype⟩
  · exact registers_iff.2 ⟨scope, hself ▸ hr⟩
  · exact registers_of_lookup? hr htype

theorem nodup_names_trace
    (i : Interface) :
    (DefinitionOrder.names i.trace).Nodup :=
  (DefinitionOrder.growth_trace i.structures i.registered).nodup_names List.nodup_nil

theorem mem_names_trace_iff
    {i : Interface}
    {n : Lexeme} :
    n ∈ DefinitionOrder.names i.trace ↔ ∃ s, i.Registers s ∧ s.name = n := by
  constructor
  · intro hn
    obtain ⟨e, he, rfl⟩ := List.mem_map.1 hn
    exact ⟨e.2, (registers_of_mem_trace he).1, rfl⟩
  · rintro ⟨s, hs, rfl⟩
    obtain ⟨scope, hr⟩ := registers_iff.1 hs
    exact DefinitionOrder.mem_names_trace i.structures hr

/-- The section is the text of registered structures with different names, and these are the
names of all registered structures. -/
theorem structuresSection_complete
    (i : Interface) :
    ∃ l : List Structure,
      (∃ rest, i.arranged.value.sections =
        ⟨"Structures", String.join (l.map Structure.source)⟩ :: rest) ∧
      (∀ s ∈ l, i.Registers s) ∧
      (l.map Structure.name).Nodup ∧
      ∀ n, n ∈ l.map Structure.name ↔ ∃ s, i.Registers s ∧ s.name = n := by
  refine ⟨i.trace.map Prod.snd, ?_, ?_, ?_, ?_⟩
  · rw [List.map_map]
    exact sections_arranged i
  · intro s hs
    obtain ⟨e, he, rfl⟩ := List.mem_map.1 hs
    exact (registers_of_mem_trace he).1
  · rw [← DefinitionOrder.names_eq_map_snd]
    exact nodup_names_trace i
  · intro n
    rw [← DefinitionOrder.names_eq_map_snd]
    exact mem_names_trace_iff

/-- The section is the text of structures that stand each behind definitions of the names of all
that it uses in the scope under which it was written. -/
theorem structuresSection_dependencies_first
    (i : Interface)
    (h : ∀ r ∈ i.registered, DefinitionOrder.NestsWithin i.structures r.1 16 r.2) :
    (∃ rest, i.arranged.value.sections =
      ⟨"Structures", String.join (i.trace.map (fun e => e.2.source))⟩ :: rest) ∧
    (∀ e ∈ i.trace, ∃ s, (e.1, s) ∈ i.registered) ∧
    ∀ before e after, i.trace = before ++ e :: after →
      ∀ d, DefinitionOrder.Uses i.structures e.1 e.2 d →
        d.name ∈ DefinitionOrder.names before :=
  ⟨sections_arranged i, fun _ he => (registers_of_mem_trace he).2,
    DefinitionOrder.dependenciesFirst_trace h⟩

/-- A block whose sixteen structures form one chain of uses, each registered before the one that
it uses. -/
def longestChain : Interface where
  structures := []
  stageInputs := []
  uniformBlocks :=
    [⟨{ set := 0, binding := 0, policy := .std140, name := ⟨"Frame"⟩, instanceName := .absent,
        extent := .single,
        members := .empty,
        structures := OrderedMap.ofList ((List.range 16).map fun k =>
          (⟨"Level" ++ toString k⟩,
            ⟨⟨"Level" ++ toString k⟩,
              if k = 15 then .empty
              else OrderedMap.empty.insert ⟨"inner"⟩
                (.single ⟨"Level" ++ toString (k + 1)⟩ ⟨"inner"⟩)⟩)) }⟩]
  storageBlocks := []
  stageOutputs := []

theorem nestsWithin_longestChain :
    ∀ r ∈ longestChain.registered,
      DefinitionOrder.NestsWithin longestChain.structures r.1 16 r.2 := by
  decide +kernel

/-- The innermost structure of the longest chain is defined first. -/
theorem structuresSection_dependencies_first_longestChain :
    (∀ r ∈ longestChain.registered,
      DefinitionOrder.NestsWithin longestChain.structures r.1 16 r.2) ∧
    ∀ before e after, longestChain.trace = before ++ e :: after →
      ∀ d, DefinitionOrder.Uses longestChain.structures e.1 e.2 d →
        d.name ∈ DefinitionOrder.names before :=
  ⟨nestsWithin_longestChain,
    (structuresSection_dependencies_first longestChain nestsWithin_longestChain).2.2⟩

end Interface
end StageInterface
