import StageInterface.Proofs.Insertions
import StageInterface.Proofs.Layout.Silence

/-!
# What a layout reads of its scope

A layout looks up the types that are reached from its members, and the value that
a scope has for each of them is the one registered last under that key.  So the
order in which structures of different keys are registered, and what is
registered under keys that are not reached, moves no byte.

**Results.**
* `Scope.Reaches.mem_of_closed`: what is reached stays among types that are closed
  under use.
* `placeMembers_scopeDependence`: scopes that agree on the types that are reached
  lay out members alike.
-/

namespace StageInterface

/-- The type is none of the built-in ones, and following structure types through the scope from the
members leads to a member of that type. -/
def Scope.Reaches
    (scope : Scope)
    (members : List Member)
    (type : Lexeme) : Prop :=
  ∃ m ∈ members, ∃ m', scope.Meets m m' ∧ m'.builtin? = none ∧ m'.type = type

/-- What is reached stays among types that hold those of the members and those that the structures
under them use. -/
theorem Scope.Reaches.mem_of_closed
    {scope : Scope}
    {members : List Member}
    {type : Lexeme}
    {types : List Lexeme}
    (hmembers : ∀ m ∈ members, m.type ∈ types)
    (hclosed : ∀ e ∈ scope.entries, e.1 ∈ types → ∀ m ∈ e.2.members.values, m.type ∈ types)
    (h : scope.Reaches members type) :
    type ∈ types := by
  obtain ⟨m, hm, m', hmeets, -, rfl⟩ := h
  have htype := hmembers m hm
  clear hm
  induction hmeets with
  | self m => exact htype
  | @inside m m₁ m' s _ hs hm₁ _ ih =>
      have hentry : (m.type, s) ∈ scope.entries := OrderedMap.mem_entries_iff.2 hs
      exact ih (hclosed (m.type, s) hentry htype m₁ hm₁)

section ScopeDependence

variable (p : Policy)
variable (room : Nat)
variable (owner : Lexeme)
variable {scope scope' : Scope}
variable {members : List Member}

/-- Scopes that agree on the types that are reached lay out members alike. -/
theorem placeMembers_eq_of_reaches
    (h : ∀ type, scope.Reaches members type → scope'.get? type = scope.get? type) :
    placeMembers p (elementFootprint? p scope' room) owner members =
      placeMembers p (elementFootprint? p scope room) owner members := by
  refine placeMembers_congr p owner ?_
  intro m hm
  refine elementFootprint?_congr p room ?_
  intro m' hmeets hb'
  exact h m'.type ⟨m, hm, m', hmeets, hb', rfl⟩

/-- A layout depends on the structures that are reached from its members and on nothing else of the
scope; structures and blocks are laid out so, following sixteen levels.  It is the same, with the
same size, alignment, offsets and warnings, however many levels are followed,
* in every scope that has the same structure, or none, for each type that is reached;
* in whatever order structures are registered, as long as those under one key keep theirs;
* in particular in every order if no two are registered under one key;
* after structures are registered or overwritten under keys that are not reached. -/
theorem placeMembers_scopeDependence
    (p : Policy)
    (room : Nat)
    (owner : Lexeme)
    (members : List Member)
    (scope : Scope) :
    (∀ scope' : Scope,
      (∀ type, scope.Reaches members type → scope'.get? type = scope.get? type) →
        placeMembers p (elementFootprint? p scope' room) owner members =
          placeMembers p (elementFootprint? p scope room) owner members) ∧
    (∀ l l' : List (Lexeme × Structure), OrderedMap.SameUnderEachKey l l' →
      placeMembers p (elementFootprint? p (scope.insertAll l') room) owner members =
        placeMembers p (elementFootprint? p (scope.insertAll l) room) owner members) ∧
    (∀ l l' : List (Lexeme × Structure), l.Perm l' → (l.map Prod.fst).Nodup →
      placeMembers p (elementFootprint? p (scope.insertAll l') room) owner members =
        placeMembers p (elementFootprint? p (scope.insertAll l) room) owner members) ∧
    ∀ l : List (Lexeme × Structure), (∀ e ∈ l, ¬ scope.Reaches members e.1) →
      placeMembers p (elementFootprint? p (scope.insertAll l) room) owner members =
        placeMembers p (elementFootprint? p scope room) owner members := by
  have hsame : ∀ l l' : List (Lexeme × Structure), OrderedMap.SameUnderEachKey l l' →
      placeMembers p (elementFootprint? p (scope.insertAll l') room) owner members =
        placeMembers p (elementFootprint? p (scope.insertAll l) room) owner members := by
    intro l l' h
    exact placeMembers_eq_of_reaches p room owner (fun type _ => (h.get?_eq scope type).symm)
  refine ⟨fun scope' h => placeMembers_eq_of_reaches p room owner h, hsame, ?_, ?_⟩
  · intro l l' hperm hkeys
    exact hsame l l' (.of_perm hperm hkeys)
  · intro l hl
    refine placeMembers_eq_of_reaches p room owner ?_
    intro type htype
    refine OrderedMap.get?_insertAll_of_not_mem ?_
    rintro e he rfl
    exact hl e he htype

end ScopeDependence

section Scene

/-- Structures around a scene of lamps that may hold another scene; no scene uses a probe. -/
def sceneStructures : List (Lexeme × Structure) :=
  [(⟨"Probe"⟩, ⟨⟨"Probe"⟩, OrderedMap.ofList
      [(⟨"scene"⟩, .single ⟨"Scene"⟩ ⟨"scene"⟩)]⟩),
    (⟨"Scene"⟩, ⟨⟨"Scene"⟩, OrderedMap.ofList
      [(⟨"lamps"⟩, ⟨⟨"Lamp"⟩, ⟨"lamps"⟩, .fixed 4 (by decide)⟩),
        (⟨"behind"⟩, .single ⟨"Scene"⟩ ⟨"behind"⟩)]⟩),
    (⟨"Lamp"⟩, ⟨⟨"Lamp"⟩, OrderedMap.ofList
      [(⟨"color"⟩, .single ⟨"vec3"⟩ ⟨"color"⟩),
        (⟨"range"⟩, .single ⟨"float"⟩ ⟨"range"⟩)]⟩)]

def sceneScope : Scope := OrderedMap.empty.insertAll sceneStructures

/-- A probe of another size. -/
def matrixProbe : Lexeme × Structure :=
  (⟨"Probe"⟩, ⟨⟨"Probe"⟩, OrderedMap.ofList [(⟨"frame"⟩, .single ⟨"mat4"⟩ ⟨"frame"⟩)]⟩)

def viewMembers : List Member :=
  [.single ⟨"Scene"⟩ ⟨"scene"⟩, .single ⟨"float"⟩ ⟨"exposure"⟩]

/-- The layout of the view in a scope. -/
def viewLayout
    (scope : Scope) : Noted LayoutWarning Placement :=
  placeMembers .std140 (elementFootprint? .std140 scope 16) ⟨"View"⟩ viewMembers

theorem mem_of_sceneScope_reaches
    {type : Lexeme}
    (h : sceneScope.Reaches viewMembers type) :
    type ∈ [(⟨"Scene"⟩ : Lexeme), ⟨"float"⟩, ⟨"Lamp"⟩, ⟨"vec3"⟩] :=
  h.mem_of_closed (by decide) (by decide +kernel)

/-- A scene that holds itself has one layout, with its structures registered forwards or backwards,
with another probe and with none. -/
theorem placeMembers_scopeDependence_scene :
    (viewLayout sceneScope).value.offsets = [0, 960] ∧
    viewLayout (OrderedMap.empty.insertAll sceneStructures.reverse) = viewLayout sceneScope ∧
    viewLayout (sceneScope.insertAll [matrixProbe]) = viewLayout sceneScope ∧
    viewLayout (OrderedMap.empty.insertAll sceneStructures.tail) = viewLayout sceneScope := by
  obtain ⟨hagree, -, -, hunreached⟩ :=
    placeMembers_scopeDependence .std140 16 ⟨"View"⟩ viewMembers sceneScope
  obtain ⟨-, -, hperm, -⟩ :=
    placeMembers_scopeDependence .std140 16 ⟨"View"⟩ viewMembers .empty
  refine ⟨by decide +kernel, ?_, ?_, ?_⟩
  · exact hperm sceneStructures _ sceneStructures.reverse_perm.symm (by decide)
  · refine hunreached [matrixProbe] ?_
    intro e he hreaches
    rw [List.mem_singleton] at he
    subst he
    exact absurd (mem_of_sceneScope_reaches hreaches) (by decide)
  · refine hagree _ ?_
    intro type htype
    have hall : ∀ type ∈ [(⟨"Scene"⟩ : Lexeme), ⟨"float"⟩, ⟨"Lamp"⟩, ⟨"vec3"⟩],
        (OrderedMap.empty.insertAll sceneStructures.tail).get? type = sceneScope.get? type := by
      decide +kernel
    exact hall type (mem_of_sceneScope_reaches htype)

end Scene
end StageInterface
