import StageInterface.Block
import StageInterface.Proofs.Layout.Agreement

/-!
# Silent layouts

When a layout notices nothing.  Structures are followed a bounded number of
levels, and both a type without a footprint and the bound leave a warning; so
silence means that every type that is met is known and that the bound has not
been met.

The layout is compared with plain recursion over types (`HasShape`), which has
no bound and no result where the recursion does not end.

**Results.**
* `silent_elementFootprint?_iff`: the members that are resolved in silence.
* `hasShape_of_nestsWithin`: plain recursion gives the same shape while
  structures nest within the bound.
* `value_placeMembers_of_nestsWithin`: how many levels are followed does not matter
  while structures nest within them.
* `Block.layout_silent_iff`: both for whole blocks; cycles and chains beyond the
  bound are never silent.
-/

namespace StageInterface

/-- The type is a built-in one with a place in buffer memory, or the key of a registered
structure. -/
def Member.IsKnown
    (scope : Scope)
    (m : Member) : Prop :=
  match m.builtin? with
  | some t => t ≠ .void ∧ t ≠ .handle
  | none => ∃ s, scope.get? m.type = some s

/-- The shape of a member by plain recursion over types, whatever the nesting of structures: there
is none if the nesting has no end, and a type without a footprint takes no room. -/
inductive HasShape
    (p : Policy)
    (scope : Scope) :
    Member → Shape → Prop
  | builtin
      {m : Member}
      {t : BuiltinType}
      (hb : m.builtin? = some t) :
      HasShape p scope m ((p.builtin? t).elim .vacant (m.shape p))
  | unknown
      {m : Member}
      (hb : m.builtin? = none)
      (hs : scope.get? m.type = none) :
      HasShape p scope m .vacant
  | inside
      {m : Member}
      {s : Structure}
      (hb : m.builtin? = none)
      (hs : scope.get? m.type = some s)
      (shape : Member → Shape)
      (h : ∀ m' ∈ s.members.values, HasShape p scope m' (shape m')) :
      HasShape p scope m (m.shape p (p.place (s.members.values.map shape)).footprint)

/-- The layout of the block's body by plain recursion over types. -/
def Block.HasPlainLayout
    (b : Block)
    (placement : Placement) : Prop :=
  ∃ shape : Member → Shape,
    (∀ m ∈ b.members.values, HasShape b.policy b.structures m (shape m)) ∧
      placement = b.policy.place (b.members.values.map shape)

/-- Plain recursion gives one shape at most. -/
theorem HasShape.unique
    {p : Policy}
    {scope : Scope}
    {m : Member}
    {x y : Shape}
    (hx : HasShape p scope m x)
    (hy : HasShape p scope m y) :
    x = y := by
  induction hx generalizing y with
  | builtin hb =>
      cases hy with
      | builtin hb' =>
          rw [hb, Option.some.injEq] at hb'
          rw [hb']
      | unknown hb' => simp [hb] at hb'
      | inside hb' => simp [hb] at hb'
  | unknown hb hs =>
      cases hy with
      | builtin hb' => simp [hb] at hb'
      | unknown => rfl
      | inside _ hs' => simp [hs] at hs'
  | inside hb hs shape _ ih =>
      cases hy with
      | builtin hb' => simp [hb] at hb'
      | unknown _ hs' => simp [hs] at hs'
      | inside _ hs' shape' h' =>
          rw [hs, Option.some.injEq] at hs'
          subst hs'
          rw [List.map_congr_left (fun m' hm' => ih m' hm' (h' m' hm'))]

section Nesting

variable {scope : Scope}
variable {m : Member}
variable {s : Structure}

/-- What is met from a member of a structure type: itself, and what is met from the structure's
members. -/
theorem forall_meets_iff
    (hb : m.builtin? = none)
    (hs : scope.get? m.type = some s)
    {motive : Member → Prop} :
    (∀ m', scope.Meets m m' → motive m') ↔
      motive m ∧ ∀ m₁ ∈ s.members.values, ∀ m', scope.Meets m₁ m' → motive m' := by
  constructor
  · intro h
    exact ⟨h m (.self m), fun m₁ hm₁ m' hmeets => h m' (.inside hb hs hm₁ hmeets)⟩
  · rintro ⟨hself, hinside⟩ m' hmeets
    cases hmeets with
    | self => exact hself
    | @inside _ m₁ _ s' _ hs' hm₁ hmeets =>
        rw [hs, Option.some.injEq] at hs'
        subst hs'
        exact hinside m₁ hm₁ m' hmeets

/-- From a member of a built-in type nothing else is met. -/
theorem eq_of_meets_builtin
    {t : BuiltinType}
    (hb : m.builtin? = some t)
    {m' : Member}
    (hmeets : scope.Meets m m') :
    m' = m := by
  cases hmeets with
  | self => rfl
  | inside hb' =>
      rw [hb] at hb'
      simp at hb'

/-- A structure nests one level deeper than the structures of its members. -/
theorem Member.nestsWithin_succ_iff
    (hb : m.builtin? = none)
    (hs : scope.get? m.type = some s)
    {n : Nat} :
    m.NestsWithin scope (n + 1) ↔ ∀ m' ∈ s.members.values, m'.NestsWithin scope n := by
  constructor
  · intro h m' hm'
    exact h.inside hb hs hm'
  · intro h _ s' hs'
    rw [hs, Option.some.injEq] at hs'
    subst hs'
    rw [DefinitionOrder.nestsWithin_succ_iff]
    rintro d ⟨m', hm', hb', hd⟩
    rcases Option.or_eq_some_iff.1 hd with hscope | ⟨-, hfind⟩
    · exact h m' hm' hb' d hscope
    · simp at hfind

theorem Member.NestsWithin.mono
    {n n' : Nat}
    (h : m.NestsWithin scope n)
    (hle : n ≤ n') :
    m.NestsWithin scope n' :=
  fun hb s hs => (h hb s hs).mono hle

/-- Where structures nest within a bound, so do those that are met. -/
theorem Member.NestsWithin.of_meets
    {n : Nat}
    {m' : Member}
    (h : m.NestsWithin scope n)
    (hmeets : scope.Meets m m') :
    ∃ k, m'.NestsWithin scope k := by
  induction hmeets generalizing n with
  | self m => exact ⟨n, h⟩
  | inside hb hs hm' hmeets ih =>
      obtain ⟨k, rfl⟩ := h.exists_room hb hs
      exact ih (h.inside hb hs hm')

/-- A structure that uses itself, however indirectly, nests within no bound. -/
theorem not_nestsWithin_of_cycle
    {s : Structure}
    (hcycle : Relation.TransGen (DefinitionOrder.Uses [] scope) s s)
    (n : Nat) :
    ¬ DefinitionOrder.NestsWithin [] scope n s := by
  induction n generalizing s with
  | zero => exact DefinitionOrder.not_nestsWithin_zero [] scope s
  | succ n ih =>
      intro h
      obtain ⟨d, huses, hback⟩ := Relation.TransGen.head'_iff.1 hcycle
      have hd : Relation.TransGen (DefinitionOrder.Uses [] scope) d d :=
        Relation.TransGen.tail' hback huses
      exact ih hd ((DefinitionOrder.nestsWithin_succ_iff [] scope).1 h d huses)

end Nesting

section Resolution

variable (p : Policy)
variable (scope : Scope)

theorem exists_builtin?_iff
    {t : BuiltinType} :
    (∃ f, p.builtin? t = some f) ↔ t ≠ .void ∧ t ≠ .handle := by
  cases t <;> simp [Policy.builtin?]

/-- A member is resolved in silence exactly when every type that is met is known and structures
nest within the levels that are followed. -/
theorem silent_elementFootprint?_iff
    (room : Nat)
    (m : Member) :
    ((elementFootprint? p scope room m).notices = [] ∧
        ∃ f, (elementFootprint? p scope room m).value = some f) ↔
      (∀ m', scope.Meets m m' → m'.IsKnown scope) ∧ m.NestsWithin scope room := by
  induction room, m using resolution_induction scope with
  | builtin room m t hb =>
      have hnests : m.NestsWithin scope room := by
        intro hnone
        rw [hb] at hnone
        simp at hnone
      have hknown : (∀ m', scope.Meets m m' → m'.IsKnown scope) ↔ t ≠ .void ∧ t ≠ .handle := by
        constructor
        · intro h
          have hm := h m (.self m)
          rw [Member.IsKnown, hb] at hm
          exact hm
        · intro h m' hmeets
          rw [eq_of_meets_builtin hb hmeets, Member.IsKnown, hb]
          exact h
      rw [elementFootprint?_builtin p scope hb, Noted.value_pure, Noted.notices_pure,
        exists_builtin?_iff, hknown]
      simp [hnests]
  | exhausted m hb =>
      rw [elementFootprint?_zero p scope hb]
      constructor
      · rintro ⟨hnotices, -⟩
        simp at hnotices
      · rintro ⟨hknown, hnests⟩
        have hm := hknown m (.self m)
        rw [Member.IsKnown, hb] at hm
        obtain ⟨s, hs⟩ := hm
        exact absurd (hnests hb s hs) (DefinitionOrder.not_nestsWithin_zero [] scope s)
  | absent room m hb hs =>
      rw [elementFootprint?_absent p scope hb hs]
      constructor
      · rintro ⟨-, f, hf⟩
        simp at hf
      · rintro ⟨hknown, -⟩
        have hm := hknown m (.self m)
        rw [Member.IsKnown, hb, hs] at hm
        simp at hm
  | found room m s hb hs ih =>
      have hself : m.IsKnown scope := by
        rw [Member.IsKnown, hb]
        exact ⟨s, hs⟩
      rw [elementFootprint?_structure p scope hb hs, Noted.notices_map, Noted.value_map,
        notices_placeMembers_eq_nil_iff, forall_meets_iff hb hs,
        Member.nestsWithin_succ_iff hb hs]
      constructor
      · rintro ⟨hsilent, -⟩
        refine ⟨⟨hself, ?_⟩, ?_⟩
        · intro m' hm'
          exact ((ih m' hm').1 (hsilent m' hm')).1
        · intro m' hm'
          exact ((ih m' hm').1 (hsilent m' hm')).2
      · rintro ⟨⟨-, hknown⟩, hnests⟩
        refine ⟨?_, _, rfl⟩
        intro m' hm'
        exact (ih m' hm').2 ⟨hknown m' hm', hnests m' hm'⟩

/-- While structures nest within the levels that are followed, plain recursion gives the shape that
the layout gives. -/
theorem hasShape_of_nestsWithin
    (owner : Lexeme)
    {room : Nat}
    {m : Member}
    (hm : m.NestsWithin scope room) :
    HasShape p scope m (memberShape p (elementFootprint? p scope room) owner m).value := by
  induction room, m using resolution_induction scope generalizing owner with
  | builtin room m t hb =>
      have helement := congrArg Noted.value (elementFootprint?_builtin p scope hb room)
      have hplain : HasShape p scope m ((p.builtin? t).elim .vacant (m.shape p)) := .builtin hb
      cases hf : p.builtin? t with
      | some f =>
          rw [hf] at hplain
          rw [value_memberShape_of_some p _ owner (helement.trans hf)]
          exact hplain
      | none =>
          rw [hf] at hplain
          rw [value_memberShape_of_none p _ owner (helement.trans hf)]
          exact hplain
  | exhausted m hb =>
      have helement := congrArg Noted.value (elementFootprint?_zero p scope hb)
      rw [value_memberShape_of_none p _ owner helement]
      cases hs : scope.get? m.type with
      | none => exact .unknown hb hs
      | some s => exact absurd (hm hb s hs) (DefinitionOrder.not_nestsWithin_zero [] scope s)
  | absent room m hb hs =>
      have helement := congrArg Noted.value (elementFootprint?_absent p scope hb hs room)
      rw [value_memberShape_of_none p _ owner helement]
      exact .unknown hb hs
  | found room m s hb hs ih =>
      have helement := congrArg Noted.value (elementFootprint?_structure p scope hb hs room)
      have hmembers := (Member.nestsWithin_succ_iff hb hs).1 hm
      rw [value_memberShape_of_some p _ owner helement, value_placeMembers]
      exact .inside hb hs _ (fun m' hm' => ih m' hm' s.name (hmembers m' hm'))

/-- Members are placed alike however many levels are followed, while structures nest within them. -/
theorem value_placeMembers_of_nestsWithin
    (owner : Lexeme)
    {room room' : Nat}
    (hle : room ≤ room')
    {members : List Member}
    (h : ∀ m ∈ members, m.NestsWithin scope room) :
    (placeMembers p (elementFootprint? p scope room') owner members).value =
      (placeMembers p (elementFootprint? p scope room) owner members).value := by
  rw [value_placeMembers, value_placeMembers]
  refine congrArg p.place (List.map_congr_left ?_)
  intro m hm
  have hshape := hasShape_of_nestsWithin p scope owner (h m hm)
  have hshape' := hasShape_of_nestsWithin p scope owner ((h m hm).mono hle)
  exact hshape'.unique hshape

/-- While structures nest within the limit, the element of a member has the footprint of the own
layout of the structure that its type refers to. -/
theorem value_elementFootprint?_of_nestsWithin
    {m : Member}
    {s : Structure}
    (hb : m.builtin? = none)
    (hs : scope.get? m.type = some s)
    (hm : m.NestsWithin scope Structure.nestingLimit) :
    (elementFootprint? p scope Structure.nestingLimit m).value =
      some (s.layout p scope).value.footprint := by
  have hmembers : ∀ m' ∈ s.members.values, m'.NestsWithin scope 15 :=
    (Member.nestsWithin_succ_iff hb hs).1 hm
  have hlayout : (s.layout p scope).value =
      (placeMembers p (elementFootprint? p scope 15) s.name s.members.values).value :=
    value_placeMembers_of_nestsWithin p scope s.name (by decide) hmembers
  rw [hlayout]
  exact congrArg Noted.value (elementFootprint?_structure p scope hb hs 15)

end Resolution

namespace Block

variable {b : Block}

theorem notices_layout_eq_nil_iff :
    b.layout.notices = [] ↔
      (∀ m ∈ b.members.values, ∀ m', b.structures.Meets m m' → m'.IsKnown b.structures) ∧
      ∀ m ∈ b.members.values, m.NestsWithin b.structures Structure.nestingLimit := by
  rw [layout, layoutMembers, notices_placeMembers_eq_nil_iff]
  simp only [silent_elementFootprint?_iff, forall_and]

/-- Plain recursion gives the layout of the block and no other while structures nest within the
limit. -/
theorem hasPlainLayout_iff
    (h : ∀ m ∈ b.members.values, m.NestsWithin b.structures Structure.nestingLimit)
    (placement : Placement) :
    b.HasPlainLayout placement ↔ placement = b.layout.value := by
  have hshapes := fun m hm => hasShape_of_nestsWithin b.policy b.structures b.name (h m hm)
  rw [layout, layoutMembers, value_placeMembers]
  constructor
  · rintro ⟨shape, hshape, rfl⟩
    rw [List.map_congr_left (fun m hm => (hshape m hm).unique (hshapes m hm))]
  · rintro rfl
    exact ⟨_, hshapes, rfl⟩

/-- The layout of a block notices nothing exactly when every type that is met from its members is
known and at most sixteen structures nest under a member; it is then the layout of plain recursion.
The bound on nesting changes no layout that keeps it, whatever types are unknown.  A cycle that is
met and a chain of more than sixteen structures are never silent. -/
theorem layout_silent_iff
    (b : Block) :
    (b.layout.notices = [] ↔
      (∀ m ∈ b.members.values, ∀ m', b.structures.Meets m m' → m'.IsKnown b.structures) ∧
      ∀ m ∈ b.members.values, m.NestsWithin b.structures 16) ∧
    (b.layout.notices = [] →
      ∀ placement, b.HasPlainLayout placement ↔ placement = b.layout.value) ∧
    ((∀ m ∈ b.members.values, m.NestsWithin b.structures 16) →
      ∀ placement, b.HasPlainLayout placement ↔ placement = b.layout.value) ∧
    (∀ m ∈ b.members.values, ∀ m', b.structures.Meets m m' → m'.builtin? = none →
      ∀ s, b.structures.get? m'.type = some s →
        Relation.TransGen (DefinitionOrder.Uses [] b.structures) s s →
          b.layout.notices ≠ []) ∧
    ∀ m ∈ b.members.values, m.builtin? = none → ∀ s, b.structures.get? m.type = some s →
      ∀ l, List.IsChain (DefinitionOrder.Uses [] b.structures) (s :: l) →
        16 < (s :: l).length → b.layout.notices ≠ [] := by
  refine ⟨notices_layout_eq_nil_iff, ?_, hasPlainLayout_iff, ?_, ?_⟩
  · intro hsilent
    exact hasPlainLayout_iff (notices_layout_eq_nil_iff.1 hsilent).2
  · intro m hm m' hmeets hb s hs hcycle hsilent
    have hnests := (notices_layout_eq_nil_iff.1 hsilent).2 m hm
    obtain ⟨k, hk⟩ := hnests.of_meets hmeets
    exact not_nestsWithin_of_cycle hcycle k (hk hb s hs)
  · intro m hm hb s hs l hchain hlong hsilent
    have hnests := (notices_layout_eq_nil_iff.1 hsilent).2 m hm hb s hs
    exact absurd (hnests l hchain) (Nat.not_le.2 hlong)

end Block
end StageInterface
