import StageInterface.Proofs.AcceptedMembers
import StageInterface.Proofs.Layout.PolicyOrder

/-!
# Layouts before and after a member is added

A member with a new key is placed behind all members before it and moves none of
them.  One with a known key stands where the old one stood, so that what is in
front of it keeps its place.  This holds of any members, also of those that take
no room because their types are not resolved, and of offsets at the limit.

**Results.**
* `Policy.offsets_place_append`, `Policy.take_offsets_place_set`: the offsets
  after a shape is put at the end or in place of another.
* `Policy.forall₂_offsetsFrom`: every member ends where all of them end, or
  before.
* `Policy.size_place_le_append`: a shape of fixed size does not shrink the whole.
* `addMember_layout`: all this for the three containers.
-/

namespace StageInterface

section Placement

variable (p : Policy)

theorem Size.le_add_right
    (a b : Size) :
    a ≤ a + b := by
  have hle := a.val_le
  rw [le_iff, val_add, limit]
  omega

theorem Policy.aggregateAlign_le_aggregateAlign
    {a b : Size}
    (h : a ≤ b) :
    p.aggregateAlign a ≤ p.aggregateAlign b := by
  cases p with
  | packed => exact h
  | std140 =>
      exact Size.roundUp_le_roundUp h (Nat.le_refl _) Size.isAlignment_sixteen
        Size.isAlignment_sixteen
  | std430 => exact h

/-- A shape of fixed size does not shrink the whole that it is placed in. -/
theorem Cursor.size_close_le_advance
    {c : Cursor}
    {s : Shape}
    (hc : c.align.IsAlignment)
    (hs : s.IsAligned)
    (hfixed : s.isRuntime = false) :
    (c.close p).size ≤ ((c.advance p s).close p).size := by
  have hreach : c.reach ≤ (c.advance p s).reach := reach_le_advance p c s
  have hruntime : (c.advance p s).runtime = c.runtime := by
    rw [advance, hfixed, Bool.or_false]
  rw [close, close, hruntime]
  dsimp only
  split
  · exact hreach
  · have hadvance : (c.advance p s).align.IsAlignment := by
      rw [advance, hs.align_eq]
      exact hc.max (hs.footprint p)
    have halign : c.align ≤ (c.advance p s).align := by
      rw [Size.le_iff, advance, Size.val_max]
      exact Nat.le_max_left _ _
    exact Size.roundUp_le_roundUp hreach (p.aggregateAlign_le_aggregateAlign halign)
      (p.isAlignment_aggregateAlign hc) (p.isAlignment_aggregateAlign hadvance)

namespace Policy

/-- Every member ends where all of them end, or before. -/
theorem forall₂_offsetsFrom
    (c : Cursor)
    (l : List Shape) :
    List.Forall₂ (fun s o => o + (s.footprint p).size ≤ (l.foldl (Cursor.advance p) c).reach)
      l (p.offsetsFrom c l) := by
  induction l generalizing c with
  | nil => exact .nil
  | cons s l ih => exact .cons (reach_le_foldl_advance p (c.advance p s) l) (ih (c.advance p s))

theorem offsets_place_append
    (l : List Shape)
    (s : Shape) :
    (p.place (l ++ [s])).offsets =
      (p.place l).offsets ++ [(l.foldl (Cursor.advance p) .start).offset p s] :=
  p.offsetsFrom_append .start l [s]

/-- What is placed next starts behind the end of every member. -/
theorem forall₂_offsets_place
    (l : List Shape)
    (s : Shape) :
    List.Forall₂
      (fun s' o =>
        o ≤ (l.foldl (Cursor.advance p) .start).offset p s ∧
          o + (s'.footprint p).size ≤ (l.foldl (Cursor.advance p) .start).offset p s)
      l (p.place l).offsets := by
  refine (p.forall₂_offsetsFrom .start l).imp ?_
  intro s' o hend
  have hnext : o + (s'.footprint p).size ≤ (l.foldl (Cursor.advance p) .start).offset p s :=
    Nat.le_trans hend (Size.le_roundUp _ _)
  exact ⟨Nat.le_trans (Size.le_add_right o _) hnext, hnext⟩

theorem take_offsetsFrom
    (c : Cursor)
    (l : List Shape)
    (i : Nat) :
    (p.offsetsFrom c l).take i = p.offsetsFrom c (l.take i) := by
  induction l generalizing c i with
  | nil => rw [offsetsFrom, List.take_nil, List.take_nil, offsetsFrom]
  | cons s l ih =>
      cases i with
      | zero => rfl
      | succ i => rw [offsetsFrom, List.take_succ_cons, List.take_succ_cons, offsetsFrom, ih]

/-- A shape in place of another moves nothing in front of it. -/
theorem take_offsets_place_set
    (l : List Shape)
    (i : Nat)
    (s : Shape) :
    (p.place (l.set i s)).offsets.take i = (p.place l).offsets.take i := by
  rw [place, place, take_offsetsFrom, take_offsetsFrom, List.take_set_of_le (Nat.le_refl i)]

theorem size_place_le_append
    {l : List Shape}
    {s : Shape}
    (hl : ∀ s ∈ l, s.IsAligned)
    (hs : s.IsAligned)
    (hfixed : s.isRuntime = false) :
    (p.place l).footprint.size ≤ (p.place (l ++ [s])).footprint.size := by
  have hc : (l.foldl (Cursor.advance p) .start).align.IsAlignment :=
    p.isAlignment_foldl_advance hl Size.isAlignment_one
  rw [place, place, List.foldl_append]
  exact Cursor.size_close_le_advance p hc hs hfixed

end Policy
end Placement

section Members

variable (p : Policy)
variable (scope : Scope)

/-- The bytes from the offset of a member to its end.  A member whose type is not resolved and an
array sized at run time take none. -/
def Member.size
    (m : Member) : Size :=
  match (elementFootprint? p scope Structure.nestingLimit m).value with
  | some element => ((m.shape p element).footprint p).size
  | none => 0

/-- The shape that a member of `owner` is placed with. -/
def Member.placedShape
    (owner : Lexeme)
    (m : Member) : Shape :=
  (memberShape p (elementFootprint? p scope Structure.nestingLimit) owner m).value

theorem Member.size_placedShape
    (owner : Lexeme)
    (m : Member) :
    ((m.placedShape p scope owner).footprint p).size = m.size p scope := by
  unfold size placedShape
  cases h : (elementFootprint? p scope Structure.nestingLimit m).value with
  | some element => rw [value_memberShape_of_some p _ owner h]
  | none =>
      rw [value_memberShape_of_none p _ owner h]
      rfl

theorem Member.isAligned_placedShape
    (owner : Lexeme)
    (m : Member) :
    (m.placedShape p scope owner).IsAligned :=
  p.isAligned_memberShape (p.isAlignment_elementFootprint? scope Structure.nestingLimit m)

theorem Member.isRuntime_placedShape
    (owner : Lexeme)
    {m : Member}
    (hm : m.extent ≠ .runtime) :
    (m.placedShape p scope owner).isRuntime = false := by
  have hfixed : m.isRuntime = false := by
    rw [isRuntime, Bool.eq_false_iff, ne_eq, Extent.isRuntime_iff]
    exact hm
  exact isRuntime_memberShape p _ owner hfixed

theorem value_layoutMembers
    (owner : Lexeme)
    (members : Members) :
    (layoutMembers p scope owner members).value =
      p.place (members.values.map (Member.placedShape p scope owner)) :=
  value_placeMembers p _ owner members.values

/-- What becomes of the keys and the layout of some members when one more is put under a key. -/
structure MemberPut
    (key : Lexeme)
    (m : Member)
    (members members' : Members)
    (before after : Placement) : Prop where
  /-- A new member goes behind the end of every other one, and those keep their offsets. -/
  new_key : key ∉ members.keys →
    members'.keys = members.keys ++ [key] ∧
    (∃ offset, after.offsets = before.offsets ++ [offset] ∧
      List.Forall₂ (fun m' o => o ≤ offset ∧ o + m'.size p scope ≤ offset)
        members.values before.offsets) ∧
    (m.extent ≠ .runtime → before.footprint.size ≤ after.footprint.size)
  /-- A member in place of another one leaves the offsets in front of it as they are. -/
  known_key : ∀ i, members.keys[i]? = some key →
    members'.keys = members.keys ∧ after.offsets.take i = before.offsets.take i

theorem memberPut_insert
    (owner key : Lexeme)
    (m : Member)
    (members : Members) :
    MemberPut p scope key m members (members.insert key m)
      (layoutMembers p scope owner members).value
      (layoutMembers p scope owner (members.insert key m)).value := by
  rw [value_layoutMembers, value_layoutMembers, OrderedMap.values_insert]
  constructor
  · intro hkey
    have hindex : members.indexOf? key = none := by
      rw [← Option.not_isSome_iff_eq_none]
      exact fun h => hkey (OrderedMap.contains_iff_mem_keys.1 h)
    rw [OrderedMap.keys_insert, if_neg hkey, hindex]
    dsimp only
    rw [List.map_append, List.map_singleton]
    refine ⟨rfl, ⟨_, p.offsets_place_append _ _, ?_⟩, ?_⟩
    · have hends := p.forall₂_offsets_place
        (members.values.map (Member.placedShape p scope owner)) (m.placedShape p scope owner)
      rw [List.forall₂_map_left_iff] at hends
      simp only [Member.size_placedShape] at hends
      exact hends
    · intro hm
      refine p.size_place_le_append ?_ (m.isAligned_placedShape p scope owner)
        (Member.isRuntime_placedShape p scope owner hm)
      intro s hs
      obtain ⟨m', -, rfl⟩ := List.mem_map.1 hs
      exact m'.isAligned_placedShape p scope owner
  · intro i hi
    have hmem : key ∈ members.keys := List.mem_of_getElem? hi
    rw [OrderedMap.keys_insert, if_pos hmem, OrderedMap.indexOf?_of_getElem?_keys hi]
    dsimp only
    rw [List.map_set]
    exact ⟨rfl, p.take_offsets_place_set _ i _⟩

end Members

/-- How a layout changes when a member is accepted: that of a structure under every policy and in
every scope, that of a block under its own policy and with its own structures. -/
theorem addMember_layout
    (key : Lexeme)
    (m : Member) :
    (∀ s s' : Structure, s.addMember key m = .ok s' → ∀ p scope,
      MemberPut p scope key m s.members s'.members (s.layout p scope).value
        (s'.layout p scope).value) ∧
    (∀ b b' : UniformBlock, b.addMember key m = .ok b' →
      MemberPut b.policy b.structures key m b.members b'.members b.layout.value b'.layout.value) ∧
    (∀ b b' : StorageBlock, b.addMember key m = .ok b' →
      MemberPut b.policy b.structures key m b.members b'.members b.layout.value
        b'.layout.value) := by
  refine ⟨?_, ?_, ?_⟩
  · intro s s' h p scope
    obtain ⟨-, rfl⟩ := Structure.putsFixed.1 h
    exact memberPut_insert p scope s.name key m s.members
  · intro b b' h
    obtain ⟨-, rfl⟩ := UniformBlock.putsFixed.1 h
    exact memberPut_insert b.policy b.structures b.name key m b.members
  · intro b b' h
    obtain ⟨-, -, rfl⟩ := StorageBlock.eq_of_addMember h
    exact memberPut_insert b.policy b.structures b.name key m b.members

/-- A block with a member of unknown type between two others. -/
def fog : UniformBlock where
  set := 0
  binding := 2
  policy := .std140
  name := ⟨"Fog"⟩
  instanceName := .absent
  extent := .single
  members := OrderedMap.ofList
    [(⟨"color"⟩, .single ⟨"vec3"⟩ ⟨"color"⟩),
      (⟨"glow"⟩, .single ⟨"Glow"⟩ ⟨"glow"⟩),
      (⟨"density"⟩, .single ⟨"float"⟩ ⟨"density"⟩)]
  structures := .empty

/-- A fourth member goes behind the three, and a matrix in place of the second one leaves the first
one where it is. -/
theorem addMember_layout_fog :
    fog.layout.value.offsets = [0, 12, 12] ∧
    (∃ b', fog.addMember ⟨"drift"⟩ (.single ⟨"vec3"⟩ ⟨"drift"⟩) = .ok b' ∧
      fog.layout.value.footprint.size ≤ b'.layout.value.footprint.size ∧
      ∃ offset, b'.layout.value.offsets = [0, 12, 12, offset] ∧ 16 ≤ offset) ∧
    ∃ b', fog.addMember ⟨"glow"⟩ (.single ⟨"mat3"⟩ ⟨"glow"⟩) = .ok b' ∧
      b'.members.keys = fog.members.keys ∧ b'.layout.value.offsets.take 1 = [0] := by
  have hoffsets : fog.layout.value.offsets = [0, 12, 12] := by decide +kernel
  refine ⟨hoffsets, ⟨_, rfl, ?_⟩, ⟨_, rfl, ?_⟩⟩
  · have hput := (addMember_layout ⟨"drift"⟩ (.single ⟨"vec3"⟩ ⟨"drift"⟩)).2.1 fog _ rfl
    obtain ⟨-, ⟨offset, happend, hends⟩, hsize⟩ := hput.new_key (by decide)
    rw [hoffsets] at happend hends
    have hdensity := (hends.get (i := 2) (by decide) (by decide)).2
    have hend : (16 : Size) ≤ 12 + (Member.single ⟨"float"⟩ ⟨"density"⟩).size .std140 .empty := by
      decide +kernel
    exact ⟨hsize (by decide), offset, happend, Nat.le_trans hend hdensity⟩
  · have hput := (addMember_layout ⟨"glow"⟩ (.single ⟨"mat3"⟩ ⟨"glow"⟩)).2.1 fog _ rfl
    obtain ⟨hkeys, htake⟩ := hput.known_key 1 rfl
    rw [hoffsets] at htake
    exact ⟨hkeys, htake⟩

end StageInterface
