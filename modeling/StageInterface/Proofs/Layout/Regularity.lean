import StageInterface.Proofs.Construction

/-!
# Regular layouts

The layouts that arise while a member is laid out: those of its scalars and
vectors, of its arrays, matrices among them, and of the structures that its type
leads to, at every level of nesting (`Member.Arises`).

What they have in common is an invariant on footprints (`Policy.IsRegular`).
The stride of an array rounds up to the larger one of the element's alignment
and sixteen, and the alignment of a structure is itself rounded up to sixteen.
On powers of two both come to the same, so that a structure is padded to the
stride of an array of it already.

**Results.**
* `exists_arises_memberShape`: the room that a member is given arises.
* `isRegular_place`: a structure of aligned members of fixed size is regular.
* `layouts_regular`: every layout that arises is, in structures and in blocks.
-/

namespace StageInterface

namespace Size

/-- A multiple of the alignment is not rounded, and the limit cannot be. -/
theorem roundUp_eq_self
    {a b : Size}
    (h : b.val ∣ a.val ∨ a.val = limit) :
    a.roundUp b = a := by
  refine Size.ext ?_
  have hle := a.val_le
  have hup := le_leastMultiple a.val b.val
  rw [val_roundUp]
  rcases h with hdvd | hlimit
  · have hdown := leastMultiple_le hdvd (Nat.le_refl a.val)
    simp only [limit]
    omega
  · simp only [limit] at hlimit ⊢
    omega

/-- A size rounded up is a multiple of the alignment or the limit. -/
theorem dvd_roundUp_or
    {b : Size}
    (hb : b.IsAlignment)
    (a : Size) :
    b.val ∣ (a.roundUp b).val ∨ (a.roundUp b).val = limit := by
  rcases Nat.lt_or_ge (a.roundUp b).val limit with hlt | hge
  · exact Or.inl (dvd_roundUp hb hlt)
  · exact Or.inr (Nat.le_antisymm (a.roundUp b).val_le hge)

end Size

/-- What a footprint is the layout of. -/
inductive Part
  /-- A scalar or a vector. -/
  | leaf
  /-- An array; a matrix is one of its columns. -/
  | array
  | struct
  /-- A member that takes no room because its type is not resolved. -/
  | vacancy
deriving DecidableEq

/-- The layouts that arise from a built-in type. -/
inductive BuiltinType.Arises
    (p : Policy) :
    BuiltinType → Part → Footprint → Prop
  | scalar
      {s : Scalar}
      {f : Footprint}
      (h : p.builtin? (.scalar s) = some f) :
      Arises p (.scalar s) .leaf f
  | vector
      (s : Scalar)
      (components : Nat) :
      Arises p (.vector s components) .leaf (p.vector s components)
  | column
      (s : Scalar)
      (columns rows : Nat) :
      Arises p (.matrix s columns rows) .leaf (p.vector s rows)
  | matrix
      (s : Scalar)
      (columns rows : Nat) :
      Arises p (.matrix s columns rows) .array (p.array (p.vector s rows) columns)

/-- The layouts that arise from a member, following structures at most so many levels. -/
inductive Member.Arises
    (p : Policy)
    (scope : Scope) :
    Nat → Member → Part → Footprint → Prop
  | builtin
      {m : Member}
      {t : BuiltinType}
      {part : Part}
      {f : Footprint}
      (room : Nat)
      (hb : m.builtin? = some t)
      (h : t.Arises p part f) :
      Arises p scope room m part f
  | struct
      {m : Member}
      {s : Structure}
      (room : Nat)
      (hb : m.builtin? = none)
      (hs : scope.get? m.type = some s) :
      Arises p scope (room + 1) m .struct
        (placeMembers p (elementFootprint? p scope room) s.name s.members.values).value.footprint
  | inside
      {room : Nat}
      {m m' : Member}
      {s : Structure}
      {part : Part}
      {f : Footprint}
      (hb : m.builtin? = none)
      (hs : scope.get? m.type = some s)
      (hm' : m' ∈ s.members.values)
      (h : Arises p scope room m' part f) :
      Arises p scope (room + 1) m part f
  | array
      {room : Nat}
      {m : Member}
      {count : UInt32}
      {hcount : count ≠ 0}
      {f : Footprint}
      (he : m.extent = .fixed count hcount)
      (hf : (elementFootprint? p scope room m).value = some f) :
      Arises p scope room m .array (p.array f count.toNat)
  | runtime
      {room : Nat}
      {m : Member}
      {f : Footprint}
      (he : m.extent = .runtime)
      (hf : (elementFootprint? p scope room m).value = some f) :
      Arises p scope room m .array ((Shape.runtime f).footprint p)
  | vacancy
      {room : Nat}
      {m : Member}
      (hf : (elementFootprint? p scope room m).value = none) :
      Arises p scope room m .vacancy (Shape.vacant.footprint p)

/-- What every layout has that arises. -/
structure Policy.IsRegular
    (p : Policy)
    (part : Part)
    (f : Footprint) : Prop where
  /-- The alignment is a power of two of at most 32 bytes. -/
  isAlignment : f.align.IsAlignment
  /-- Arrays and structures have one of the two largest alignments under `std140`. -/
  aggregate : p = .std140 → part = .array ∨ part = .struct → f.align = 16 ∨ f.align = 32
  /-- Where the policy pads, a structure ends at a multiple of its alignment. -/
  padded : p ≠ .packed → part = .struct → f.align.val ∣ f.size.val ∨ f.size.val = Size.limit
  /-- Structures follow each other in an array without a gap. -/
  stride : part = .struct → p.stride f = f.size
  /-- An array of structures is as large as they are together. -/
  array : part = .struct → ∀ count,
    (p.array f count).size.val = min (count * f.size.val) Size.limit

namespace Policy

variable (p : Policy)

/-- An alignment rounded up to sixteen bytes is sixteen or the double of it. -/
theorem aggregateAlign_std140
    {a : Size}
    (ha : a.IsAlignment) :
    aggregateAlign .std140 a = 16 ∨ aggregateAlign .std140 a = 32 := by
  obtain ⟨k, hk, hak⟩ := ha
  obtain rfl : a = Size.ofNat (2 ^ k) := by
    rw [← hak, Size.ofNat_val]
  interval_cases k <;> decide

theorem isRegular_array
    {f : Footprint}
    (hf : f.align.IsAlignment)
    (size : Size) :
    p.IsRegular .array ⟨size, p.aggregateAlign f.align⟩ where
  isAlignment := p.isAlignment_aggregateAlign hf
  aggregate := by
    rintro rfl -
    exact aggregateAlign_std140 hf
  padded := by simp
  stride := by simp
  array := by simp

theorem isRegular_leaf
    {f : Footprint}
    (hf : f.align.IsAlignment) :
    p.IsRegular .leaf f :=
  ⟨hf, by simp, by simp, by simp, by simp⟩

theorem isRegular_vacancy :
    p.IsRegular .vacancy (Shape.vacant.footprint p) :=
  ⟨Size.isAlignment_one, by simp, by simp, by simp, by simp⟩

/-- A structure that is padded to a multiple of its alignment needs no gap in an array. -/
theorem stride_eq_size
    {f : Footprint}
    (haggregate : p = .std140 → f.align = 16 ∨ f.align = 32)
    (hpadded : p ≠ .packed → f.align.val ∣ f.size.val ∨ f.size.val = Size.limit) :
    p.stride f = f.size := by
  cases p with
  | packed => rfl
  | std430 => exact Size.roundUp_eq_self (hpadded (by decide))
  | std140 =>
      have hmax : max f.align 16 = f.align := by
        rcases haggregate rfl with h | h <;> rw [h] <;> decide
      rw [stride, hmax]
      exact Size.roundUp_eq_self (hpadded (by decide))

/-- The cursor is sized at run time behind a member that is. -/
theorem runtime_foldl_advance
    (c : Cursor)
    {l : List Shape}
    (hl : ∀ s ∈ l, s.isRuntime = false) :
    (l.foldl (Cursor.advance p) c).runtime = c.runtime := by
  induction l generalizing c with
  | nil => rfl
  | cons s l ih =>
      have hs : (c.advance p s).runtime = c.runtime := by
        rw [Cursor.advance, hl s List.mem_cons_self, Bool.or_false]
      rw [List.foldl_cons, ih _ (fun s' hs' => hl s' (List.mem_cons_of_mem s hs')), hs]

/-- Where the policy pads, members of fixed size end at a multiple of the alignment of the whole. -/
theorem dvd_size_place
    (hp : p ≠ .packed)
    {l : List Shape}
    (hl : ∀ s ∈ l, s.IsAligned)
    (hfixed : ∀ s ∈ l, s.isRuntime = false) :
    (p.place l).footprint.align.val ∣ (p.place l).footprint.size.val ∨
      (p.place l).footprint.size.val = Size.limit := by
  have hcursor : (l.foldl (Cursor.advance p) Cursor.start).align.IsAlignment :=
    p.isAlignment_foldl_advance hl Size.isAlignment_one
  have hruntime : (l.foldl (Cursor.advance p) Cursor.start).runtime = false :=
    p.runtime_foldl_advance Cursor.start hfixed
  have hopen : ¬ (p = .packed ∨ (l.foldl (Cursor.advance p) Cursor.start).runtime = true) := by
    simp [hp, hruntime]
  rw [place, Cursor.close]
  dsimp only
  rw [if_neg hopen]
  exact Size.dvd_roundUp_or (p.isAlignment_aggregateAlign hcursor) _

/-- What aligned members are placed in has one of the two largest alignments under `std140`. -/
theorem align_place_std140
    {l : List Shape}
    (hl : ∀ s ∈ l, s.IsAligned)
    (hp : p = .std140) :
    (p.place l).footprint.align = 16 ∨ (p.place l).footprint.align = 32 := by
  have hcursor : (l.foldl (Cursor.advance p) Cursor.start).align.IsAlignment :=
    p.isAlignment_foldl_advance hl Size.isAlignment_one
  subst hp
  exact aggregateAlign_std140 hcursor

/-- A structure of aligned members of fixed size is regular. -/
theorem isRegular_place
    {l : List Shape}
    (hl : ∀ s ∈ l, s.IsAligned)
    (hfixed : ∀ s ∈ l, s.isRuntime = false) :
    p.IsRegular .struct (p.place l).footprint := by
  have haggregate := p.align_place_std140 hl
  have hpadded := fun hp => p.dvd_size_place hp hl hfixed
  have hstride := p.stride_eq_size haggregate hpadded
  refine ⟨p.isAlignment_place hl, fun hp _ => haggregate hp, fun hp _ => hpadded hp,
    fun _ => hstride, ?_⟩
  intro _ count
  rw [Policy.array, Size.val_times, hstride, Nat.mul_comm]

end Policy

section Members

variable {p : Policy}
variable {scope : Scope}

/-- The shapes that members are placed with are aligned. -/
theorem isAligned_of_mem_shapes
    {room : Nat}
    {owner : Lexeme}
    {members : List Member}
    {s : Shape}
    (hs : s ∈ members.map
      (fun m => (memberShape p (elementFootprint? p scope room) owner m).value)) :
    s.IsAligned := by
  obtain ⟨m, -, rfl⟩ := List.mem_map.1 hs
  exact p.isAligned_memberShape (p.isAlignment_elementFootprint? scope room m)

/-- A structure without members sized at run time is regular, wherever its layout arises. -/
theorem isRegular_placeMembers
    (room : Nat)
    (owner : Lexeme)
    {members : List Member}
    (hfixed : ∀ m ∈ members, m.isRuntime = false) :
    p.IsRegular .struct
      (placeMembers p (elementFootprint? p scope room) owner members).value.footprint := by
  rw [value_placeMembers]
  refine p.isRegular_place (fun s hs => isAligned_of_mem_shapes hs) ?_
  intro s hs
  obtain ⟨m, hm, rfl⟩ := List.mem_map.1 hs
  exact isRuntime_memberShape p _ owner (hfixed m hm)

/-- What arises from a built-in type is regular. -/
theorem BuiltinType.Arises.isRegular
    {t : BuiltinType}
    {part : Part}
    {f : Footprint}
    (h : t.Arises p part f) :
    p.IsRegular part f := by
  cases h with
  | scalar h => exact p.isRegular_leaf (p.isAlignment_builtin? h)
  | vector s components => exact p.isRegular_leaf (p.isAlignment_vector s components)
  | column s columns rows => exact p.isRegular_leaf (p.isAlignment_vector s rows)
  | matrix s columns rows => exact p.isRegular_array (p.isAlignment_vector s rows) _

/-- What arises from a member is regular. -/
theorem Member.Arises.isRegular
    (hscope : scope.IsFixed)
    {room : Nat}
    {m : Member}
    {part : Part}
    {f : Footprint}
    (h : m.Arises p scope room part f) :
    p.IsRegular part f := by
  induction h with
  | builtin room hb h => exact h.isRegular
  | struct room hb hs =>
      exact isRegular_placeMembers room _
        (hscope _ (OrderedMap.mem_values_iff.2 ⟨_, hs⟩))
  | inside hb hs hm' h ih => exact ih
  | array he hf =>
      exact p.isRegular_array (p.isAlignment_elementFootprint? scope _ _ _ hf) _
  | runtime he hf =>
      exact p.isRegular_array (p.isAlignment_elementFootprint? scope _ _ _ hf) _
  | vacancy hf => exact p.isRegular_vacancy

theorem exists_arises_builtin
    {t : BuiltinType}
    {f : Footprint}
    (h : p.builtin? t = some f) :
    ∃ part, t.Arises p part f := by
  cases t with
  | void => simp [Policy.builtin?] at h
  | handle => simp [Policy.builtin?] at h
  | scalar s => exact ⟨.leaf, .scalar h⟩
  | vector s components =>
      rw [Policy.builtin?, Option.some.injEq] at h
      subst h
      exact ⟨.leaf, .vector s components⟩
  | matrix s columns rows =>
      rw [Policy.builtin?, Option.some.injEq] at h
      subst h
      exact ⟨.array, .matrix s columns rows⟩

/-- The footprint of an element arises from its member. -/
theorem exists_arises_element
    {room : Nat}
    {m : Member}
    {f : Footprint}
    (h : (elementFootprint? p scope room m).value = some f) :
    ∃ part, m.Arises p scope room part f := by
  induction room, m using resolution_induction scope generalizing f with
  | builtin room m t hb =>
      rw [elementFootprint?_builtin p scope hb] at h
      obtain ⟨part, hpart⟩ := exists_arises_builtin h
      exact ⟨part, .builtin room hb hpart⟩
  | exhausted m hb =>
      rw [elementFootprint?_zero p scope hb] at h
      simp at h
  | absent room m hb hs =>
      rw [elementFootprint?_absent p scope hb hs] at h
      simp at h
  | found room m s hb hs _ =>
      rw [elementFootprint?_structure p scope hb hs, Noted.value_map, Option.some.injEq] at h
      subst h
      exact ⟨.struct, .struct room hb hs⟩

/-- The room that a member is given arises from it. -/
theorem exists_arises_memberShape
    (room : Nat)
    (owner : Lexeme)
    (m : Member) :
    ∃ part, m.Arises p scope room part
      ((memberShape p (elementFootprint? p scope room) owner m).value.footprint p) := by
  cases hf : (elementFootprint? p scope room m).value with
  | none =>
      rw [value_memberShape_of_none p _ owner hf]
      exact ⟨.vacancy, .vacancy hf⟩
  | some f =>
      rw [value_memberShape_of_some p _ owner hf, Member.shape]
      cases he : m.extent with
      | single => exact exists_arises_element hf
      | fixed count hcount => exact ⟨.array, .array he hf⟩
      | runtime => exact ⟨.array, .runtime he hf⟩

end Members

/-- Every layout that arises from a member is regular, under every policy and with whatever
structures its type may lead to; so is the layout of every structure itself, and in a block that of
every member, while the alignment of the block is that of an aggregate. -/
theorem layouts_regular :
    (∀ (p : Policy) (scope : Scope), scope.IsBuilt →
      (∀ m part f, Member.Arises p scope Structure.nestingLimit m part f → p.IsRegular part f) ∧
      ∀ s : Structure, s.Built → p.IsRegular .struct (s.layout p scope).value.footprint) ∧
    ∀ b : Block, b.Built →
      (∀ m ∈ b.members.values, ∀ part f,
        m.Arises b.policy b.structures Structure.nestingLimit part f →
          b.policy.IsRegular part f) ∧
      b.layout.value.footprint.align.IsAlignment ∧
      (b.policy = .std140 →
        b.layout.value.footprint.align = 16 ∨ b.layout.value.footprint.align = 32) := by
  refine ⟨fun p scope hscope => ⟨?_, ?_⟩, fun b hb => ⟨?_, ?_, ?_⟩⟩
  · intro m part f h
    exact h.isRegular hscope.isFixed
  · intro s hs
    exact isRegular_placeMembers Structure.nestingLimit s.name hs.isRuntime_eq_false
  · intro m _ part f h
    exact h.isRegular hb.isFixed
  · exact b.policy.isAlignment_placeMembers
      (fun m _ => b.policy.isAlignment_elementFootprint? b.structures _ m)
  · intro hp
    rw [Block.layout, layoutMembers, value_placeMembers]
    exact b.policy.align_place_std140 (fun s hs => isAligned_of_mem_shapes hs) hp

/-- A bone is placed by a matrix and weighs on three others. -/
def bone : Structure where
  name := ⟨"Bone"⟩
  members := OrderedMap.ofList
    [(⟨"pose"⟩, .single ⟨"dmat3"⟩ ⟨"pose"⟩),
      (⟨"weights"⟩, ⟨⟨"float"⟩, ⟨"weights"⟩, .fixed 3 (by decide)⟩)]

theorem built_bone :
    bone.Built :=
  .addMember ⟨"weights"⟩ ⟨⟨"float"⟩, ⟨"weights"⟩, .fixed 3 (by decide)⟩
    (.addMember ⟨"pose"⟩ (.single ⟨"dmat3"⟩ ⟨"pose"⟩) (.ofName ⟨"Bone"⟩) rfl) rfl

/-- The structures of a skeleton. -/
def skeletonScope : Scope := OrderedMap.empty.insert ⟨"Bone"⟩ bone

/-- Any number of bones. -/
def bones : Member := ⟨⟨"Bone"⟩, ⟨"bones"⟩, .runtime⟩

/-- A bone takes 144 bytes and is padded to 160, so that bones follow each other in an array without
a gap. -/
theorem layouts_regular_skeleton :
    skeletonScope.IsBuilt ∧
    ∃ f, bones.Arises .std140 skeletonScope 16 .struct f ∧ f.size = 160 ∧ f.align = 32 ∧
      Policy.stride .std140 f = 160 ∧
      ∀ count, (Policy.array .std140 f count).size.val = min (count * 160) Size.limit := by
  have hbuilt : skeletonScope.IsBuilt :=
    Scope.isBuilt_empty.insert ⟨"Bone"⟩ built_bone
  have harises : bones.Arises .std140 skeletonScope 16 .struct _ := .struct 15 (by decide) rfl
  have hsize : (placeMembers .std140 (elementFootprint? .std140 skeletonScope 15) bone.name
      bone.members.values).value.footprint = ⟨160, 32⟩ := by decide +kernel
  rw [hsize] at harises
  have hregular := (layouts_regular.1 .std140 skeletonScope hbuilt).1 bones .struct _ harises
  exact ⟨hbuilt, _, harises, rfl, rfl, hregular.stride rfl, hregular.array rfl⟩

end StageInterface
