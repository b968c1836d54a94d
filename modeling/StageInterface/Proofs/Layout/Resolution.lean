import Mathlib.Data.List.Basic
import StageInterface.Layout.Resolution

/-!
# Resolution of member types

How the layout of members depends on the structures that their types refer to.
Structures are followed a bounded number of levels; a resolution that notices
nothing has not met the bound.

**Results.**
* `notices_placeMembers_eq_nil_iff`: members are placed in silence exactly when
  each of them is resolved in silence.
* `elementFootprint?_of_quiet`: more room changes nothing about a silent
  resolution.
* `value_elementFootprint?_of_quiet`: a silent resolution of a structure type
  gives the footprint of the structure's own layout.
-/

namespace StageInterface

section Steps

variable (p : Policy)
variable (element? : Member → Noted LayoutWarning (Option Footprint))
variable (owner : Lexeme)

theorem value_memberShape_of_some
    {m : Member}
    {f : Footprint}
    (h : (element? m).value = some f) :
    (memberShape p element? owner m).value = m.shape p f := by
  rw [memberShape, Noted.value_bind, h]
  rfl

theorem value_memberShape_of_none
    {m : Member}
    (h : (element? m).value = none) :
    (memberShape p element? owner m).value = Shape.vacant := by
  rw [memberShape, Noted.value_bind, h]
  rfl

/-- A member of fixed extent is placed with a shape of fixed size. -/
theorem isRuntime_memberShape
    {m : Member}
    (hm : m.isRuntime = false) :
    (memberShape p element? owner m).value.isRuntime = false := by
  cases hf : (element? m).value with
  | none =>
      rw [value_memberShape_of_none p element? owner hf]
      rfl
  | some f =>
      rw [value_memberShape_of_some p element? owner hf]
      rw [Member.isRuntime] at hm
      unfold Member.shape
      cases he : m.extent with
      | single => rfl
      | fixed count _ => rfl
      | runtime =>
          rw [he] at hm
          simp [Extent.isRuntime] at hm

theorem notices_memberShape
    (m : Member) :
    (memberShape p element? owner m).notices =
      (element? m).notices ++
        if (element? m).value = none then [.unresolved owner m] else [] := by
  rw [memberShape, Noted.notices_bind]
  cases (element? m).value <;> simp

/-- A member without a footprint adds a warning to those of its element. -/
theorem mem_notices_memberShape_iff
    {m : Member}
    {w : LayoutWarning} :
    w ∈ (memberShape p element? owner m).notices ↔
      w ∈ (element? m).notices ∨ (element? m).value = none ∧ w = .unresolved owner m := by
  rw [notices_memberShape, List.mem_append]
  refine or_congr_right ?_
  cases (element? m).value <;> simp

theorem value_placeMembers
    (members : List Member) :
    (placeMembers p element? owner members).value =
      p.place (members.map (fun m => (memberShape p element? owner m).value)) := by
  rw [placeMembers, Noted.value_map, Noted.value_mapM]

theorem notices_placeMembers
    (members : List Member) :
    (placeMembers p element? owner members).notices =
      members.flatMap (fun m => (memberShape p element? owner m).notices) := by
  rw [placeMembers, Noted.notices_map, Noted.notices_mapM]

/-- Members are placed in silence exactly when each of them is resolved in silence. -/
theorem notices_placeMembers_eq_nil_iff
    {members : List Member} :
    (placeMembers p element? owner members).notices = [] ↔
      ∀ m ∈ members, (element? m).notices = [] ∧ ∃ f, (element? m).value = some f := by
  rw [notices_placeMembers, List.flatMap_eq_nil_iff]
  refine forall₂_congr ?_
  intro m _
  rw [notices_memberShape, List.append_eq_nil_iff]
  refine and_congr_right ?_
  intro _
  cases (element? m).value <;> simp

end Steps

/-- Members are placed alike when the footprints of their elements are found alike. -/
theorem placeMembers_congr
    (p : Policy)
    (owner : Lexeme)
    {element? element?' : Member → Noted LayoutWarning (Option Footprint)}
    {members : List Member}
    (h : ∀ m ∈ members, element? m = element?' m) :
    placeMembers p element? owner members = placeMembers p element?' owner members := by
  have hshape :
      ∀ m ∈ members, memberShape p element? owner m = memberShape p element?' owner m := by
    intro m hm
    rw [memberShape, memberShape, h m hm]
  refine Noted.ext ?_ ?_
  · rw [value_placeMembers, value_placeMembers]
    exact congrArg p.place (List.map_congr_left (fun m hm => by rw [hshape m hm]))
  · rw [notices_placeMembers, notices_placeMembers]
    exact List.flatMap_congr (fun m hm => by rw [hshape m hm])

section Recursion

variable (p : Policy)
variable (scope : Scope)

theorem elementFootprint?_builtin
    {m : Member}
    {t : BuiltinType}
    (h : m.builtin? = some t)
    (room : Nat) :
    elementFootprint? p scope room m = pure (p.builtin? t) := by
  rw [elementFootprint?.eq_def, h]

theorem elementFootprint?_zero
    {m : Member}
    (h : m.builtin? = none) :
    elementFootprint? p scope 0 m = ⟨none, [.tooDeep m.name]⟩ := by
  rw [elementFootprint?.eq_def, h]
  rfl

theorem elementFootprint?_absent
    {m : Member}
    (h : m.builtin? = none)
    (hs : scope.get? m.type = none)
    (room : Nat) :
    elementFootprint? p scope (room + 1) m = pure none := by
  rw [elementFootprint?.eq_def, h]
  simp [hs]

theorem elementFootprint?_structure
    {m : Member}
    {s : Structure}
    (h : m.builtin? = none)
    (hs : scope.get? m.type = some s)
    (room : Nat) :
    elementFootprint? p scope (room + 1) m =
      (fun placement => some placement.footprint) <$>
        placeMembers p (elementFootprint? p scope room) s.name s.members.values := by
  rw [elementFootprint?.eq_def, h]
  simp [hs]

/-- How a type is resolved: it is built in, or its structure is out of reach, unknown, or found
and resolved with one level less. -/
@[elab_as_elim]
theorem resolution_induction
    {motive : Nat → Member → Prop}
    (builtin : ∀ room m t, m.builtin? = some t → motive room m)
    (exhausted : ∀ m, m.builtin? = none → motive 0 m)
    (absent : ∀ room m, m.builtin? = none → scope.get? m.type = none → motive (room + 1) m)
    (found : ∀ room m s, m.builtin? = none → scope.get? m.type = some s →
      (∀ m' ∈ s.members.values, motive room m') → motive (room + 1) m)
    (room : Nat)
    (m : Member) :
    motive room m := by
  induction room generalizing m with
  | zero =>
      cases hb : m.builtin? with
      | some t => exact builtin 0 m t hb
      | none => exact exhausted m hb
  | succ room ih =>
      cases hb : m.builtin? with
      | some t => exact builtin (room + 1) m t hb
      | none =>
          cases hs : scope.get? m.type with
          | none => exact absent room m hb hs
          | some s => exact found room m s hb hs (fun m' _ => ih m')

/-- A silent resolution has not met the bound, so it stays the same with more room. -/
theorem elementFootprint?_of_quiet
    {room room' : Nat}
    (hle : room ≤ room')
    {m : Member}
    (hquiet : (elementFootprint? p scope room m).notices = []) :
    elementFootprint? p scope room' m = elementFootprint? p scope room m := by
  induction room, m using resolution_induction scope generalizing room' with
  | builtin room m t hb =>
      rw [elementFootprint?_builtin p scope hb, elementFootprint?_builtin p scope hb]
  | exhausted m hb =>
      rw [elementFootprint?_zero p scope hb] at hquiet
      simp at hquiet
  | absent room m hb hs =>
      obtain ⟨room', rfl⟩ : ∃ k, room' = k + 1 := ⟨room' - 1, by omega⟩
      rw [elementFootprint?_absent p scope hb hs, elementFootprint?_absent p scope hb hs]
  | found room m s hb hs ih =>
      obtain ⟨room', rfl⟩ : ∃ k, room' = k + 1 := ⟨room' - 1, by omega⟩
      rw [elementFootprint?_structure p scope hb hs, Noted.notices_map,
        notices_placeMembers_eq_nil_iff] at hquiet
      rw [elementFootprint?_structure p scope hb hs, elementFootprint?_structure p scope hb hs]
      have hmembers :
          placeMembers p (elementFootprint? p scope room') s.name s.members.values =
            placeMembers p (elementFootprint? p scope room) s.name s.members.values :=
        placeMembers_congr p s.name
          (fun m' hm' => ih m' hm' (by omega : room ≤ room') (hquiet m' hm').1)
      rw [hmembers]

/-- The layout of a structure, seen from a place that still follows `room` levels. -/
theorem layout_eq_of_quiet
    {room : Nat}
    (hroom : room ≤ Structure.nestingLimit)
    {s : Structure}
    (hquiet :
      (placeMembers p (elementFootprint? p scope room) s.name s.members.values).notices = []) :
    s.layout p scope =
      placeMembers p (elementFootprint? p scope room) s.name s.members.values := by
  rw [notices_placeMembers_eq_nil_iff] at hquiet
  exact placeMembers_congr p s.name
    (fun m hm => elementFootprint?_of_quiet p scope hroom (hquiet m hm).1)

end Recursion

/-- The footprint of one element of the member: that of its built-in type, or of the own layout of
the structure that its type refers to. -/
def Member.footprint?
    (p : Policy)
    (scope : Scope)
    (m : Member) :
    Option Footprint :=
  match m.builtin? with
  | some t => p.builtin? t
  | none => (scope.get? m.type).map (fun s => (s.layout p scope).value.footprint)

/-- A silent resolution finds the footprint of an element, however many levels it follows. -/
theorem value_elementFootprint?_of_quiet
    (p : Policy)
    (scope : Scope)
    {room : Nat}
    (hroom : room ≤ Structure.nestingLimit)
    {m : Member}
    (hquiet : (elementFootprint? p scope room m).notices = []) :
    (elementFootprint? p scope room m).value = m.footprint? p scope := by
  induction room, m using resolution_induction scope with
  | builtin room m t hb =>
      rw [elementFootprint?_builtin p scope hb, Member.footprint?, hb]
      rfl
  | exhausted m hb =>
      rw [elementFootprint?_zero p scope hb] at hquiet
      simp at hquiet
  | absent room m hb hs =>
      rw [elementFootprint?_absent p scope hb hs, Member.footprint?, hb, hs]
      rfl
  | found room m s hb hs _ =>
      rw [elementFootprint?_structure p scope hb hs, Noted.notices_map] at hquiet
      have hlayout := layout_eq_of_quiet p scope (by omega : room ≤ _) hquiet
      rw [elementFootprint?_structure p scope hb hs, Member.footprint?, hb, hs]
      rw [Noted.value_map, ← hlayout]
      rfl

end StageInterface
