import StageInterface.Proofs.Block.Leaves
import StageInterface.Proofs.BuiltinNames
import StageInterface.Proofs.Layout.Silence

/-!
# Structures that a block registers

What becomes of a structure that a block registers under its own name.  Member
types are looked up among the built-in types first, so it depends on the name
alone whether members of that type find the structure.  Most names that are no
built-in type do; those that begin like the name of a handle do not.

**Results.**
* `Lexeme.builtin?_of_isFree`: which free names are taken for a handle.
* `Block.registered_structure`: with a name that is not taken for a handle, the
  structure gives its layout to the members of its type and is defined before its
  users; with one that is, it does neither.
-/

namespace StageInterface

/-- The name is none of the whole names that built-in types have. -/
def Lexeme.IsFree
    (l : Lexeme) : Prop :=
  (∀ t, ¬ BuiltinType.Spells l.text t) ∧ l.text ≠ BuiltinType.atomicCounter

/-- The name begins like the name of a handle. -/
def Lexeme.HasHandleStem
    (l : Lexeme) : Prop :=
  ∃ stem ∈ BuiltinType.handleStems, Text.Begins stem l.text

instance (l : Lexeme) : Decidable l.IsFree :=
  decidable_of_iff
    ((BuiltinType.ofName? l.text = none ∨ BuiltinType.ofName? l.text = some .handle) ∧
      l.text ≠ BuiltinType.atomicCounter)
    (and_congr_left fun _ => BuiltinType.forall_not_spells_iff.symm)

instance (l : Lexeme) : Decidable l.HasHandleStem :=
  inferInstanceAs (Decidable (∃ stem ∈ BuiltinType.handleStems, Text.Begins stem l.text))

/-- A free name is taken for a handle if it begins like one, and for a structure otherwise. -/
theorem Lexeme.builtin?_of_isFree
    {l : Lexeme}
    (h : l.IsFree) :
    (l.HasHandleStem → l.builtin? = some .handle) ∧ (¬ l.HasHandleStem → l.builtin? = none) := by
  have hhandle : BuiltinType.isHandleName l.text = true ↔ l.HasHandleStem := by
    rw [BuiltinType.isHandleName_iff]
    exact or_iff_right h.2
  rw [Lexeme.builtin?, BuiltinType.ofName?_of_not_spells h.1]
  constructor
  · intro hstem
    rw [if_pos (hhandle.2 hstem)]
  · intro hstem
    rw [if_neg (fun hname => hstem (hhandle.1 hname))]

namespace Block

/-- No other structure that the block registers has the same name. -/
def IsOnlyOfItsName
    (b : Block)
    (s : Structure) : Prop :=
  ∀ t ∈ b.structures.values, t.name = s.name → t = s

/-- Members of the structure's type are placed with the structure's own layout, as arrays if they
have an extent. -/
def LaysOut
    (b : Block)
    (s : Structure) : Prop :=
  ∀ m ∈ b.members.values, m.type = s.name →
    b.shape m = m.shape b.policy (s.layout b.policy b.structures).value.footprint

/-- A structure of the name stands before every one that has a member of that type, and it is the
given one if no other has its name. -/
def DefinesFirst
    (b : Block)
    (s : Structure) : Prop :=
  ∀ before t after, b.orderedStructures.value = before ++ t :: after →
    (∃ m ∈ t.members.values, m.type = s.name) →
      ∃ d ∈ before, d.name = s.name ∧ (b.IsOnlyOfItsName s → d = s)

/-- The structure stands behind definitions of the names of all that were registered before it. -/
def StandsBehindEarlier
    (b : Block)
    (s : Structure) : Prop :=
  ∀ earlier later, b.structures.entries = earlier ++ (s.name, s) :: later →
    ∀ before after, b.orderedStructures.value = before ++ s :: after →
      ∀ e ∈ earlier, e.2.name ∈ before.map Structure.name

section Layout

variable {b : Block}
variable {s : Structure}

theorem laysOut_of_nestsWithin
    (hs : b.structures.get? s.name = some s)
    (hb : s.name.builtin? = none)
    (hnests : DefinitionOrder.NestsWithin [] b.structures 16 s) :
    b.LaysOut s := by
  intro m _ htype
  have hbm : m.builtin? = none := by
    rw [Member.builtin?, htype, hb]
  have hsm : b.structures.get? m.type = some s := by
    rw [htype, hs]
  have hm : m.NestsWithin b.structures Structure.nestingLimit := by
    intro _ s' hs'
    rw [hsm, Option.some.injEq] at hs'
    subst hs'
    exact hnests
  exact value_memberShape_of_some b.policy _ b.name
    (value_elementFootprint?_of_nestsWithin b.policy b.structures hbm hsm hm)

/-- A member that is taken for a handle takes no room, and a warning says so. -/
theorem vacant_of_handle
    {m : Member}
    (hm : m ∈ b.members.values)
    (hb : m.builtin? = some .handle) :
    b.shape m = .vacant ∧ .unresolved b.name m ∈ b.layout.notices := by
  have hnone : (elementFootprint? b.policy b.structures Structure.nestingLimit m).value = none :=
    congrArg Noted.value (elementFootprint?_builtin b.policy b.structures hb _)
  refine ⟨value_memberShape_of_none b.policy _ b.name hnone, ?_⟩
  rw [layout, layoutMembers, notices_placeMembers, List.mem_flatMap]
  exact ⟨m, hm, (mem_notices_memberShape_iff b.policy _ b.name).2 (Or.inr ⟨hnone, rfl⟩)⟩

end Layout

section Order

variable {b : Block}
variable {s : Structure}

/-- The structures of the block in the order of their definitions, with the block's scope. -/
def trace
    (b : Block) : List (Scope × Structure) :=
  DefinitionOrder.trace [] (DefinitionOrder.ofScope b.structures)

theorem map_snd_trace
    (b : Block) :
    b.trace.map Prod.snd = b.orderedStructures.value :=
  DefinitionOrder.map_snd_trace [] (DefinitionOrder.ofScope b.structures)

theorem mem_ofScope
    {t : Structure}
    (ht : t ∈ b.structures.values) :
    (b.structures, t) ∈ DefinitionOrder.ofScope b.structures :=
  List.mem_map_of_mem ht

theorem lookup?_eq
    (scope : Scope)
    (type : Lexeme) :
    DefinitionOrder.lookup? [] scope type = scope.get? type :=
  Option.or_none

/-- What is written is registered, and written under the block's scope. -/
theorem of_mem_trace
    {e : Scope × Structure}
    (he : e ∈ b.trace) :
    e.1 = b.structures ∧ e.2 ∈ b.structures.values := by
  obtain ⟨r, hr, hscope, hknown⟩ :=
    (DefinitionOrder.growth_trace [] (DefinitionOrder.ofScope b.structures)).allowed_of_mem he
  obtain ⟨t, ht, rfl⟩ := List.mem_map.1 hr
  refine ⟨hscope, ?_⟩
  rcases hknown with hself | ⟨type, htype⟩
  · rw [hself]
    exact ht
  · rw [lookup?_eq] at htype
    exact OrderedMap.mem_values_iff.2 ⟨type, htype⟩

/-- No name is defined twice. -/
theorem nodup_names_orderedStructures
    (b : Block) :
    (b.orderedStructures.value.map Structure.name).Nodup := by
  rw [← map_snd_trace, ← DefinitionOrder.names_eq_map_snd]
  exact (DefinitionOrder.growth_trace [] _).nodup_names List.nodup_nil

/-- A structure whose name no other has is defined. -/
theorem mem_orderedStructures
    (hs : s ∈ b.structures.values)
    (honly : b.IsOnlyOfItsName s) :
    s ∈ b.orderedStructures.value := by
  obtain ⟨e, he, hname⟩ :=
    List.mem_map.1 (DefinitionOrder.mem_names_trace [] (mem_ofScope hs))
  rw [← map_snd_trace, ← honly e.2 (of_mem_trace he).2 hname]
  exact List.mem_map_of_mem he

theorem definesFirst_of_nestsWithin
    (hs : b.structures.get? s.name = some s)
    (hb : s.name.builtin? = none)
    (hnests : ∀ t ∈ b.structures.values, DefinitionOrder.NestsWithin [] b.structures 16 t) :
    b.DefinesFirst s := by
  rintro before t after hsplit ⟨m, hm, htype⟩
  rw [← map_snd_trace] at hsplit
  obtain ⟨run, rest, hrun, rfl, hrest⟩ := List.map_eq_append_iff.1 hsplit
  obtain ⟨e, run', rfl, rfl, rfl⟩ := List.map_eq_cons_iff.1 hrest
  have hfirst : DefinitionOrder.DependenciesFirst [] b.trace := by
    refine DefinitionOrder.dependenciesFirst_trace ?_
    rintro r hr
    obtain ⟨t, ht, rfl⟩ := List.mem_map.1 hr
    exact hnests t ht
  have hscope : e.1 = b.structures := (of_mem_trace (hrun ▸ by simp)).1
  have huses : DefinitionOrder.Uses [] e.1 e.2 s := by
    refine ⟨m, hm, ?_, ?_⟩
    · rw [Member.builtin?, htype, hb]
    · rw [lookup?_eq, hscope, htype, hs]
  obtain ⟨d, hd, hname⟩ := List.mem_map.1 (hfirst run e run' hrun s huses)
  refine ⟨d.2, List.mem_map_of_mem hd, hname, ?_⟩
  intro honly
  exact honly d.2 (of_mem_trace (hrun ▸ List.mem_append_left _ hd)).2 hname

/-- A structure that stands under its own name only was not registered before that. -/
theorem not_mem_earlier
    (hkey : ∀ k, b.structures.get? k = some s → k = s.name)
    {earlier later : List (Lexeme × Structure)}
    (hentries : b.structures.entries = earlier ++ (s.name, s) :: later) :
    s ∉ earlier.map Prod.snd := by
  intro hs
  obtain ⟨⟨k, _⟩, hk, rfl⟩ := List.mem_map.1 hs
  have hget : b.structures.get? k = some _ :=
    OrderedMap.mem_entries_iff.1 (hentries ▸ List.mem_append_left _ hk)
  have hnodup := b.structures.nodup
  rw [hentries, List.map_append, List.map_cons, List.nodup_append] at hnodup
  exact hnodup.2.2 k (List.mem_map_of_mem hk) k (hkey k hget ▸ List.mem_cons_self) rfl

/-- A structure that no other uses is defined behind all that were registered before it. -/
theorem standsBehindEarlier_of_not_uses
    (hkey : ∀ k, b.structures.get? k = some s → k = s.name)
    (hunused : ∀ t, ¬ DefinitionOrder.Uses [] b.structures t s) :
    b.StandsBehindEarlier s := by
  intro earlier later hentries before after hsplit e he
  have hregistered : DefinitionOrder.ofScope b.structures =
      earlier.map (fun e => (b.structures, e.2)) ++
        ((s.name, s) :: later).map (fun e => (b.structures, e.2)) := by
    rw [DefinitionOrder.ofScope, OrderedMap.values, hentries, List.map_map, List.map_append]
    rfl
  rw [← map_snd_trace, trace, hregistered] at hsplit
  refine DefinitionOrder.mem_names_before ?_ ?_ hsplit (b.structures, e.2)
    (List.mem_map_of_mem he)
  · intro r hr heq
    obtain ⟨e', he', rfl⟩ := List.mem_map.1 hr
    exact not_mem_earlier hkey hentries (heq ▸ List.mem_map_of_mem he')
  · intro r hr t
    obtain ⟨e', -, rfl⟩ := List.mem_map.1 hr
    exact hunused t

theorem not_uses_of_handle
    (hkey : ∀ k, b.structures.get? k = some s → k = s.name)
    (hb : s.name.builtin? = some .handle)
    (t : Structure) :
    ¬ DefinitionOrder.Uses [] b.structures t s := by
  rintro ⟨m, -, hbm, hlookup⟩
  rw [lookup?_eq] at hlookup
  rw [Member.builtin?, hkey m.type hlookup, hb] at hbm
  simp at hbm

end Order

/-- What becomes of a structure that a block registers under its own name, a name that no built-in
type has as a whole.

If the name does not begin like that of a handle, the structure gives its own layout to the members
of its type while it nests at most sixteen deep, and while all structures of the block do, it is
defined before those that have a member of its type.  If the name begins like that of a handle,
members of its type take no room, with a warning, and the structure is defined behind all that were
registered before it, whether or not they have such members. -/
theorem registered_structure
    (b : Block)
    (s : Structure)
    (hs : b.structures.get? s.name = some s)
    (hname : s.name.IsFree) :
    b.layout.value = b.policy.place (b.members.values.map b.shape) ∧
    b.structuresSource.value = Structure.sources b.orderedStructures.value ∧
    (b.orderedStructures.value.map Structure.name).Nodup ∧
    (∀ t ∈ b.structures.values, b.IsOnlyOfItsName t → t ∈ b.orderedStructures.value) ∧
    (¬ s.name.HasHandleStem →
      (DefinitionOrder.NestsWithin [] b.structures 16 s → b.LaysOut s) ∧
      ((∀ t ∈ b.structures.values, DefinitionOrder.NestsWithin [] b.structures 16 t) →
        b.DefinesFirst s)) ∧
    (s.name.HasHandleStem →
      (∀ m ∈ b.members.values, m.type = s.name →
        b.shape m = .vacant ∧ .unresolved b.name m ∈ b.layout.notices) ∧
      ((∀ k, b.structures.get? k = some s → k = s.name) → b.StandsBehindEarlier s)) := by
  obtain ⟨hhandle, hstructure⟩ := Lexeme.builtin?_of_isFree hname
  refine ⟨value_layout b, ?_, nodup_names_orderedStructures b,
    fun t => mem_orderedStructures, ?_, ?_⟩
  · rw [structuresSource, Noted.value_map]
  · intro hstem
    have hb := hstructure hstem
    exact ⟨laysOut_of_nestsWithin hs hb, definesFirst_of_nestsWithin hs hb⟩
  · intro hstem
    have hb := hhandle hstem
    refine ⟨?_, ?_⟩
    · intro m hm htype
      refine vacant_of_handle hm ?_
      rw [Member.builtin?, htype, hb]
    · intro hkey
      exact standsBehindEarlier_of_not_uses hkey (not_uses_of_handle hkey hb)

section Terrain

def textureInfo : Structure :=
  ⟨⟨"textureInfo"⟩, OrderedMap.ofList [(⟨"tint"⟩, .single ⟨"vec4"⟩ ⟨"tint"⟩)]⟩

def surface : Structure :=
  ⟨⟨"Surface"⟩, OrderedMap.ofList [(⟨"base"⟩, .single ⟨"textureInfo"⟩ ⟨"base"⟩)]⟩

def terrain : Structure :=
  ⟨⟨"Terrain"⟩, OrderedMap.ofList [(⟨"ground"⟩, .single ⟨"Surface"⟩ ⟨"ground"⟩)]⟩

/-- A block that registers three structures, each before the one that it uses. -/
def terrainBlock : Block where
  set := 0
  binding := 0
  policy := .std140
  name := ⟨"Land"⟩
  instanceName := .absent
  extent := .single
  members := OrderedMap.ofList
    [(⟨"surface"⟩, .single ⟨"Surface"⟩ ⟨"surface"⟩),
      (⟨"info"⟩, .single ⟨"textureInfo"⟩ ⟨"info"⟩)]
  structures := OrderedMap.ofList
    [(⟨"Terrain"⟩, terrain), (⟨"Surface"⟩, surface), (⟨"textureInfo"⟩, textureInfo)]

/-- A surface is laid out and defined before the terrain; the texture information is not laid out,
and defined last. -/
theorem registered_structure_terrain :
    surface.name.IsFree ∧ ¬ surface.name.HasHandleStem ∧
    terrainBlock.LaysOut surface ∧ terrainBlock.DefinesFirst surface ∧
    textureInfo.name.IsFree ∧ textureInfo.name.HasHandleStem ∧
    terrainBlock.StandsBehindEarlier textureInfo := by
  have hfree : surface.name.IsFree := by decide
  have hplain : ¬ surface.name.HasHandleStem := by decide
  have hfree' : textureInfo.name.IsFree := by decide
  have hstem : textureInfo.name.HasHandleStem := by decide
  have hnests : ∀ t ∈ terrainBlock.structures.values,
      DefinitionOrder.NestsWithin [] terrainBlock.structures 16 t := by
    decide +kernel
  obtain ⟨-, -, -, -, hsurface, -⟩ :=
    registered_structure terrainBlock surface (by decide) hfree
  obtain ⟨-, -, -, -, -, hinfo⟩ :=
    registered_structure terrainBlock textureInfo (by decide) hfree'
  obtain ⟨hlayout, horder⟩ := hsurface hplain
  refine ⟨hfree, hplain, hlayout (hnests surface (by decide)), horder hnests, hfree', hstem, ?_⟩
  refine (hinfo hstem).2 ?_
  intro k hk
  have hentry := OrderedMap.mem_entries_iff.2 hk
  have hkeys : ∀ e ∈ terrainBlock.structures.entries,
      e.2 = textureInfo → e.1 = textureInfo.name := by
    decide
  exact hkeys _ hentry rfl

/-- The texture information is registered under its own name, which no built-in type has, and all
structures nest within the limit; but its member is not laid out with its layout, and the surface
that uses it is defined before it. -/
theorem not_laysOut_not_definesFirst_textureInfo :
    terrainBlock.structures.get? textureInfo.name = some textureInfo ∧
    textureInfo.name.IsFree ∧
    (∀ t ∈ terrainBlock.structures.values,
      DefinitionOrder.NestsWithin [] terrainBlock.structures 16 t) ∧
    ¬ terrainBlock.LaysOut textureInfo ∧
    ¬ terrainBlock.DefinesFirst textureInfo := by
  refine ⟨by decide, by decide, by decide +kernel, ?_, ?_⟩
  · intro h
    have hinfo := h (.single ⟨"textureInfo"⟩ ⟨"info"⟩) (by decide) rfl
    revert hinfo
    decide +kernel
  · intro h
    obtain ⟨d, hd, -⟩ := h [] surface [terrain, textureInfo] (by decide +kernel)
      ⟨.single ⟨"textureInfo"⟩ ⟨"base"⟩, by decide, rfl⟩
    simp at hd

end Terrain
end Block
end StageInterface
