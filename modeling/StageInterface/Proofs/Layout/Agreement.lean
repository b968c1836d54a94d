import StageInterface.Proofs.DefinitionOrder.Nesting
import StageInterface.Proofs.Layout.Resolution

/-!
# Agreement of scopes

When the layout of members is the same in two scopes.  A layout looks up the
types of the members that are met from the given ones, and nothing else; where a
larger scope has a structure for such a type and a smaller one does not, the
layout in the smaller one says so.

**Results.**
* `elementFootprint?_congr`: scopes that agree on all types that are met give the
  same footprint.
* `covers_iff_not_misses`: a part of a scope covers members exactly when no
  warning is about a type that the scope has.
* `placeMembers_eq_iff`: in a part of a scope, members are laid out as in the
  scope exactly when the part covers them.
-/

namespace StageInterface

/-- Following structure types through the scope from the first member leads to the second. -/
inductive Scope.Meets
    (scope : Scope) :
    Member → Member → Prop
  | self
      (m : Member) :
      Meets scope m m
  | inside
      {m m' m'' : Member}
      {s : Structure}
      (hb : m.builtin? = none)
      (hs : scope.get? m.type = some s)
      (hm' : m' ∈ s.members.values)
      (h : Meets scope m' m'') :
      Meets scope m m''

/-- Every structure of the scope is under the same key in the larger one. -/
def Scope.IsPart
    (scope whole : Scope) : Prop :=
  ∀ k s, scope.get? k = some s → whole.get? k = some s

/-- The part of a scope has every structure that is met from the members in the whole. -/
def Scope.Covers
    (scope whole : Scope)
    (members : List Member) : Prop :=
  ∀ m ∈ members, ∀ m', whole.Meets m m' → m'.builtin? = none →
    ∀ s, whole.get? m'.type = some s → scope.get? m'.type = some s

/-- The structure that the type of the member refers to nests within the given depth. -/
def Member.NestsWithin
    (scope : Scope)
    (n : Nat)
    (m : Member) : Prop :=
  m.builtin? = none →
    ∀ s, scope.get? m.type = some s → DefinitionOrder.NestsWithin [] scope n s

/-- The warning is about a member whose type the scope has. -/
def LayoutWarning.Misses
    (scope : Scope) :
    LayoutWarning → Prop
  | .tooDeep _ => False
  | .unresolved _ m => m.builtin? = none ∧ ∃ s, scope.get? m.type = some s

section Congruence

variable (p : Policy)
variable {scope scope' : Scope}

/-- Scopes that agree on the types of all members that are met give the same footprint. -/
theorem elementFootprint?_congr
    (room : Nat)
    {m : Member}
    (h : ∀ m', scope.Meets m m' → m'.builtin? = none →
      scope'.get? m'.type = scope.get? m'.type) :
    elementFootprint? p scope' room m = elementFootprint? p scope room m := by
  induction room, m using resolution_induction scope with
  | builtin room m t hb =>
      rw [elementFootprint?_builtin p scope' hb, elementFootprint?_builtin p scope hb]
  | exhausted m hb =>
      rw [elementFootprint?_zero p scope' hb, elementFootprint?_zero p scope hb]
  | absent room m hb hs =>
      have hs' : scope'.get? m.type = none := by
        rw [h m (.self m) hb, hs]
      rw [elementFootprint?_absent p scope' hb hs', elementFootprint?_absent p scope hb hs]
  | found room m s hb hs ih =>
      have hs' : scope'.get? m.type = some s := by
        rw [h m (.self m) hb, hs]
      have hmembers :
          placeMembers p (elementFootprint? p scope' room) s.name s.members.values =
            placeMembers p (elementFootprint? p scope room) s.name s.members.values := by
        refine placeMembers_congr p s.name ?_
        intro m' hm'
        exact ih m' hm' (fun m'' hm'' => h m'' (.inside hb hs hm' hm''))
      rw [elementFootprint?_structure p scope' hb hs', elementFootprint?_structure p scope hb hs,
        hmembers]

end Congruence

section Parts

variable (p : Policy)
variable {scope whole : Scope}

theorem Member.NestsWithin.inside
    {n : Nat}
    {m m' : Member}
    {s : Structure}
    (h : m.NestsWithin whole (n + 1))
    (hb : m.builtin? = none)
    (hs : whole.get? m.type = some s)
    (hm' : m' ∈ s.members.values) :
    m'.NestsWithin whole n := by
  intro hb' s' hs'
  have huses : DefinitionOrder.Uses [] whole s s' :=
    ⟨m', hm', hb', Option.or_eq_some_iff.2 (Or.inl hs')⟩
  exact (DefinitionOrder.nestsWithin_succ_iff [] whole).1 (h hb s hs) s' huses

/-- A type that the scope has can be followed at least one level. -/
theorem Member.NestsWithin.exists_room
    {n : Nat}
    {m : Member}
    {s : Structure}
    (h : m.NestsWithin whole n)
    (hb : m.builtin? = none)
    (hs : whole.get? m.type = some s) :
    ∃ k, n = k + 1 := by
  cases n with
  | zero => exact absurd (h hb s hs) (DefinitionOrder.not_nestsWithin_zero [] whole s)
  | succ k => exact ⟨k, rfl⟩

/-- A type that the scope has can be resolved. -/
theorem exists_value_elementFootprint?
    {room : Nat}
    {m : Member}
    {s : Structure}
    (hm : m.NestsWithin whole room)
    (hb : m.builtin? = none)
    (hs : whole.get? m.type = some s) :
    ∃ f, (elementFootprint? p whole room m).value = some f := by
  obtain ⟨room, rfl⟩ := hm.exists_room hb hs
  rw [elementFootprint?_structure p whole hb hs, Noted.value_map]
  exact ⟨_, rfl⟩

theorem not_misses_memberShape
    {room : Nat}
    {m : Member}
    (hm : m.NestsWithin whole room)
    (owner : Lexeme)
    (helement : ∀ w ∈ (elementFootprint? p whole room m).notices, ¬ w.Misses whole) :
    ∀ w ∈ (memberShape p (elementFootprint? p whole room) owner m).notices,
      ¬ w.Misses whole := by
  intro w hw
  rcases (mem_notices_memberShape_iff p _ owner).1 hw with hw | ⟨hnone, rfl⟩
  · exact helement w hw
  · rintro ⟨hb, s, hs⟩
    obtain ⟨f, hf⟩ := exists_value_elementFootprint? p hm hb hs
    rw [hnone] at hf
    simp at hf

/-- In the scope itself no type of the scope is missed. -/
theorem not_misses_elementFootprint?
    {room : Nat}
    {m : Member}
    (hm : m.NestsWithin whole room) :
    ∀ w ∈ (elementFootprint? p whole room m).notices, ¬ w.Misses whole := by
  intro w hw
  induction room, m using resolution_induction whole generalizing w with
  | builtin room m t hb =>
      rw [elementFootprint?_builtin p whole hb] at hw
      simp at hw
  | exhausted m hb =>
      rw [elementFootprint?_zero p whole hb, List.mem_singleton] at hw
      subst hw
      exact id
  | absent room m hb hs =>
      rw [elementFootprint?_absent p whole hb hs] at hw
      simp at hw
  | found room m s hb hs ih =>
      rw [elementFootprint?_structure p whole hb hs, Noted.notices_map,
        notices_placeMembers, List.mem_flatMap] at hw
      obtain ⟨m', hm', hw⟩ := hw
      have hinside := hm.inside hb hs hm'
      exact not_misses_memberShape p hinside s.name (ih m' hm' hinside) w hw

/-- If its type is not missed in the part, the part has it. -/
theorem get?_of_not_misses
    (hpart : scope.IsPart whole)
    {room : Nat}
    {owner : Lexeme}
    {m : Member}
    {s : Structure}
    (hm : m.NestsWithin whole room)
    (hquiet : ∀ w ∈ (memberShape p (elementFootprint? p scope room) owner m).notices,
      ¬ w.Misses whole)
    (hb : m.builtin? = none)
    (hs : whole.get? m.type = some s) :
    scope.get? m.type = some s := by
  obtain ⟨room, rfl⟩ := hm.exists_room hb hs
  cases hscope : scope.get? m.type with
  | none =>
      have hnone : (elementFootprint? p scope (room + 1) m).value = none := by
        rw [elementFootprint?_absent p scope hb hscope]
        rfl
      have hw := (mem_notices_memberShape_iff p _ owner).2 (Or.inr ⟨hnone, rfl⟩)
      exact absurd ⟨hb, s, hs⟩ (hquiet _ hw)
  | some s' =>
      rw [← hs]
      exact (hpart m.type s' hscope).symm

/-- If no type is missed in the part, it has all that are met. -/
theorem get?_of_meets
    (hpart : scope.IsPart whole)
    {room : Nat}
    {owner : Lexeme}
    {m m' : Member}
    {s' : Structure}
    (hmeets : whole.Meets m m')
    (hm : m.NestsWithin whole room)
    (hquiet : ∀ w ∈ (memberShape p (elementFootprint? p scope room) owner m).notices,
      ¬ w.Misses whole)
    (hb' : m'.builtin? = none)
    (hs' : whole.get? m'.type = some s') :
    scope.get? m'.type = some s' := by
  induction hmeets generalizing room owner with
  | self m => exact get?_of_not_misses p hpart hm hquiet hb' hs'
  | @inside m m₁ m' s hb hs hm₁ hmeets ih =>
      have hscope := get?_of_not_misses p hpart hm hquiet hb hs
      obtain ⟨room, rfl⟩ := hm.exists_room hb hs
      -- What is missed inside a structure is noticed by every member of its type.
      have hinside : ∀ w ∈ (memberShape p (elementFootprint? p scope room) s.name m₁).notices,
          ¬ w.Misses whole := by
        intro w hw
        refine hquiet w ((mem_notices_memberShape_iff p _ owner).2 (Or.inl ?_))
        rw [elementFootprint?_structure p scope hb hscope, Noted.notices_map,
          notices_placeMembers, List.mem_flatMap]
        exact ⟨m₁, hm₁, hw⟩
      exact ih (hm.inside hb hs hm₁) hinside hb' hs'

theorem not_misses_placeMembers
    {room : Nat}
    (owner : Lexeme)
    {members : List Member}
    (hmembers : ∀ m ∈ members, m.NestsWithin whole room) :
    ∀ w ∈ (placeMembers p (elementFootprint? p whole room) owner members).notices,
      ¬ w.Misses whole := by
  intro w hw
  rw [notices_placeMembers, List.mem_flatMap] at hw
  obtain ⟨m, hm, hw⟩ := hw
  have hnests := hmembers m hm
  exact not_misses_memberShape p hnests owner (not_misses_elementFootprint? p hnests) w hw

theorem Scope.Covers.placeMembers_eq
    (hpart : scope.IsPart whole)
    (room : Nat)
    (owner : Lexeme)
    {members : List Member}
    (hcovers : scope.Covers whole members) :
    placeMembers p (elementFootprint? p scope room) owner members =
      placeMembers p (elementFootprint? p whole room) owner members := by
  refine placeMembers_congr p owner ?_
  intro m hm
  refine elementFootprint?_congr p room ?_
  intro m' hmeets hb'
  cases hs' : whole.get? m'.type with
  | some s' => exact hcovers m hm m' hmeets hb' s' hs'
  | none =>
      cases hscope : scope.get? m'.type with
      | none => rfl
      | some s' =>
          rw [hpart m'.type s' hscope] at hs'
          simp at hs'

/-- A part of a scope covers members exactly when none of their types is missed in it. -/
theorem covers_iff_not_misses
    (hpart : scope.IsPart whole)
    {room : Nat}
    (owner : Lexeme)
    {members : List Member}
    (hmembers : ∀ m ∈ members, m.NestsWithin whole room) :
    scope.Covers whole members ↔
      ∀ w ∈ (placeMembers p (elementFootprint? p scope room) owner members).notices,
        ¬ w.Misses whole := by
  constructor
  · intro hcovers
    rw [hcovers.placeMembers_eq p hpart]
    exact not_misses_placeMembers p owner hmembers
  · intro hquiet m hm m' hmeets hb' s' hs'
    have hshape : ∀ w ∈ (memberShape p (elementFootprint? p scope room) owner m).notices,
        ¬ w.Misses whole := by
      intro w hw
      refine hquiet w ?_
      rw [notices_placeMembers, List.mem_flatMap]
      exact ⟨m, hm, hw⟩
    exact get?_of_meets p hpart hmeets (hmembers m hm) hshape hb' hs'

/-- In a part of a scope, members are laid out as in the scope, with the same warnings, exactly
when the part covers them. -/
theorem placeMembers_eq_iff
    (hpart : scope.IsPart whole)
    {room : Nat}
    (owner : Lexeme)
    {members : List Member}
    (hmembers : ∀ m ∈ members, m.NestsWithin whole room) :
    placeMembers p (elementFootprint? p scope room) owner members =
        placeMembers p (elementFootprint? p whole room) owner members ↔
      scope.Covers whole members := by
  constructor
  · intro heq
    rw [covers_iff_not_misses p hpart owner hmembers, heq]
    exact not_misses_placeMembers p owner hmembers
  · exact Scope.Covers.placeMembers_eq p hpart room owner

end Parts

end StageInterface
