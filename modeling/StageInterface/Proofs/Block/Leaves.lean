import StageInterface.Proofs.Construction

/-!
# Leaves of blocks

The bytes of a block, down to its scalars and vectors.  The fixed part of a
block is everything but the elements of a trailing array without a fixed length;
the array starts where the fixed part ends, and its elements stand one stride
apart.

**Results.**
* `exists_leaves`: in a block that is laid out in silence, below the limit of
  sizes, no two leaves share a byte, those of the fixed part lie inside the
  block, and where the policy aligns, every leaf is aligned.
-/

namespace StageInterface
namespace Block

/-- The leaves of the block, with `count` elements in a trailing array without a fixed length,
following structures at most `room` levels. -/
def leaves?
    (b : Block)
    (room count : Nat) :
    Option (List Leaf) :=
  placedLeaves? b.policy b.structures (elementLeaves? b.policy b.structures room) (some count)
    b.members.values b.layout.value.offsets

/-- The leaves of `count` elements behind the fixed part, given the footprint and the leaves of
one. -/
def tail
    (b : Block)
    (f : Footprint)
    (element : List Leaf)
    (count : Nat) :
    List Leaf :=
  (Leaf.copies (b.policy.stride f).val count element).map (Leaf.shift b.byteSize.value.val)

/-- The size of the block and the stride of a trailing array are below the limit of sizes. -/
structure BelowLimit
    (b : Block) : Prop where
  size : b.byteSize.value.val < Size.limit
  stride : ∀ m ∈ b.members.values, m.isRuntime = true →
    ∀ f ∈ m.footprint? b.policy b.structures, (b.policy.stride f).val < Size.limit

/-- The shape with which a member is placed. -/
def shape
    (b : Block)
    (m : Member) : Shape :=
  (memberShape b.policy (elementFootprint? b.policy b.structures Structure.nestingLimit)
    b.name m).value

/-- Behind the given members, placed from the start of the block. -/
def cursorAfter
    (b : Block)
    (members : List Member) : Cursor :=
  (members.map b.shape).foldl (Cursor.advance b.policy) Cursor.start

theorem value_layout
    (b : Block) :
    b.layout.value = b.policy.place (b.members.values.map b.shape) :=
  value_placeMembers b.policy _ b.name b.members.values

theorem value_byteSize
    (b : Block) :
    b.byteSize.value = ((b.cursorAfter b.members.values).close b.policy).size := by
  rw [byteSize, Noted.value_map, value_layout]
  rfl

theorem leaves?_mono
    {b : Block}
    {room room' count : Nat}
    (hle : room ≤ room')
    {l : List Leaf}
    (h : b.leaves? room count = some l) :
    b.leaves? room' count = some l :=
  placedLeaves?_mono b.policy b.structures
    (fun _ _ _ => elementLeaves?_mono b.policy b.structures hle) h

/-- Either the size of every member is fixed, or exactly that of the last one is not. -/
theorem Built.fixed_or_runtime
    {b : Block}
    (hb : b.Built) :
    (∀ m ∈ b.members.values, m.isRuntime = false) ∨
      ∃ init last, b.members.values = init ++ [last] ∧
        (∀ m ∈ init, m.isRuntime = false) ∧ last.isRuntime = true := by
  have hinit := hb.isRuntime_eq_false
  rcases List.eq_nil_or_concat' b.members.values with hnil | ⟨init, last, happend⟩
  · exact Or.inl (by simp [hnil])
  · rw [happend, List.dropLast_concat] at hinit
    cases hlast : last.isRuntime with
    | true => exact Or.inr ⟨init, last, happend, hinit, hlast⟩
    | false =>
        refine Or.inl ?_
        intro m hm
        rw [happend, List.mem_append, List.mem_singleton] at hm
        rcases hm with hm | rfl
        · exact hinit m hm
        · exact hlast

section Silent

variable {b : Block}

/-- The element of a member that is laid out in silence has a footprint, and leaves that fit it. -/
theorem exists_footprint
    (hb : b.Built)
    (hquiet : b.layout.notices = [])
    {m : Member}
    (hm : m ∈ b.members.values) :
    ∃ f, m.footprint? b.policy b.structures = some f ∧ b.shape m = m.shape b.policy f ∧
      f.align.IsAlignment ∧
      (f.size.val < Size.limit →
        ∃ l, elementLeaves? b.policy b.structures Structure.nestingLimit m = some l ∧
          Leaf.Fits b.policy f.size.val f.align.val l) := by
  have hsilent := (notices_placeMembers_eq_nil_iff b.policy _ b.name).1 hquiet m hm
  obtain ⟨hnotices, f, hf⟩ := hsilent
  refine ⟨f, ?_, ?_, ?_, ?_⟩
  · rw [← value_elementFootprint?_of_quiet b.policy b.structures (Nat.le_refl _) hnotices, hf]
  · exact value_memberShape_of_some b.policy _ b.name hf
  · exact b.policy.isAlignment_elementFootprint? b.structures _ m f hf
  · exact exists_elementLeaves? hb.isFixed (Nat.le_refl _) hnotices hf

/-- The leaves of the first members of a block, while their sizes are fixed. -/
theorem exists_fixedLeaves
    (hb : b.Built)
    (hquiet : b.layout.notices = [])
    {members : List Member}
    (hmem : ∀ m ∈ members, m ∈ b.members.values ∧ m.isRuntime = false)
    (hlimit : (b.cursorAfter members).reach.val < Size.limit) :
    ∃ l, (∀ held?, placedLeaves? b.policy b.structures
        (elementLeaves? b.policy b.structures Structure.nestingLimit) held? members
        (b.policy.offsetsFrom Cursor.start (members.map b.shape)) = some l) ∧
      Leaf.Fits b.policy (b.cursorAfter members).reach.val (b.cursorAfter members).align.val
        l := by
  have hleaves : ∀ m ∈ members, HasLeaves b.policy b.structures
      (elementLeaves? b.policy b.structures Structure.nestingLimit) m (b.shape m) := by
    intro m hm
    obtain ⟨hm, hruntime⟩ := hmem m hm
    obtain ⟨hnotices, f, hf⟩ :=
      (notices_placeMembers_eq_nil_iff b.policy _ b.name).1 hquiet m hm
    exact hasLeaves_of_quiet (Nat.le_refl _) hruntime hnotices hf
      (exists_elementLeaves? hb.isFixed (Nat.le_refl _) hnotices hf)
  exact exists_placedLeaves? hleaves Size.isAlignment_one Leaf.Fits.nil hlimit

/-- The leaves of a block of fixed size. -/
theorem exists_leaves_of_fixed
    (hb : b.Built)
    (hquiet : b.layout.notices = [])
    (hlimit : b.byteSize.value.val < Size.limit)
    (hfixed : ∀ m ∈ b.members.values, m.isRuntime = false) :
    ∃ fixed align, (∀ count, b.leaves? Structure.nestingLimit count = some fixed) ∧
      Leaf.Fits b.policy b.byteSize.value.val align fixed := by
  rw [value_byteSize] at hlimit ⊢
  have hreach := reach_le_close b.policy (b.cursorAfter b.members.values)
  obtain ⟨fixed, hleaves, hfits⟩ :=
    exists_fixedLeaves hb hquiet (fun m hm => ⟨hm, hfixed m hm⟩)
      (Nat.lt_of_le_of_lt hreach hlimit)
  refine ⟨fixed, _, ?_, hfits.mono hreach (Nat.dvd_refl _)⟩
  intro count
  rw [leaves?, value_layout]
  exact hleaves (some count)

/-- An array without a fixed length starts where the block ends. -/
theorem byteSize_of_runtime
    {init : List Member}
    {last : Member}
    {f : Footprint}
    (hmembers : b.members.values = init ++ [last])
    (hshape : b.shape last = .runtime f) :
    b.byteSize.value = (b.cursorAfter init).offset b.policy (.runtime f) := by
  rw [value_byteSize, ← size_close_advance_runtime, hmembers, cursorAfter, cursorAfter,
    List.map_append, List.foldl_append, List.map_singleton, hshape]
  rfl

theorem offsets_of_runtime
    {init : List Member}
    {last : Member}
    {f : Footprint}
    (hmembers : b.members.values = init ++ [last])
    (hshape : b.shape last = .runtime f) :
    b.layout.value.offsets =
      b.policy.offsetsFrom Cursor.start (init.map b.shape) ++ [b.byteSize.value] := by
  rw [value_layout, hmembers, List.map_append, List.map_singleton, hshape,
    byteSize_of_runtime hmembers hshape]
  exact b.policy.offsetsFrom_append Cursor.start (init.map b.shape) [.runtime f]

/-- The leaves of a block that ends in an array without a fixed length. -/
theorem exists_leaves_of_runtime
    (hb : b.Built)
    (hquiet : b.layout.notices = [])
    (hlimit : b.BelowLimit)
    {init : List Member}
    {last : Member}
    (hmembers : b.members.values = init ++ [last])
    (hinit : ∀ m ∈ init, m.isRuntime = false)
    (hlast : last.isRuntime = true) :
    ∃ fixed f element align,
      b.layout.value.offsets.getLast? = some b.byteSize.value ∧
      last.footprint? b.policy b.structures = some f ∧
      elementLeaves? b.policy b.structures Structure.nestingLimit last = some element ∧
      Leaf.Fits b.policy b.byteSize.value.val align fixed ∧
      ∀ count,
        b.leaves? Structure.nestingLimit count = some (fixed ++ b.tail f element count) ∧
        ∃ size align', Leaf.Fits b.policy size align' (fixed ++ b.tail f element count) := by
  have hmem : last ∈ b.members.values := by
    rw [hmembers]
    exact List.mem_concat_self
  obtain ⟨f, hf, hshape, halign, helement⟩ := exists_footprint hb hquiet hmem
  have hextent : last.extent = .runtime := Extent.isRuntime_iff.1 hlast
  rw [Member.shape, hextent] at hshape
  have hend := byteSize_of_runtime hmembers hshape
  have hoffsets := offsets_of_runtime hmembers hshape
  have hreach : (b.cursorAfter init).reach.val ≤ b.byteSize.value.val := by
    rw [hend]
    exact Size.le_roundUp (b.cursorAfter init).reach _
  have hstart : (b.cursorAfter init).reach.val < Size.limit :=
    Nat.lt_of_le_of_lt hreach hlimit.size
  obtain ⟨fixed, hfixed, hfits⟩ :=
    exists_fixedLeaves hb hquiet (fun m hm => ⟨by simp [hmembers, hm], hinit m hm⟩) hstart
  -- The end of the last element is no size of the layout; only the stride has to be exact.
  have hstride : (b.policy.stride f).val < Size.limit := hlimit.stride last hmem hlast f hf
  obtain ⟨element, hleaves, hel⟩ :=
    helement (Nat.lt_of_le_of_lt (b.policy.size_le_stride f) hstride)
  have hoffset : f.align.val ∣ b.byteSize.value.val := by
    have hdvd := dvd_offset (p := b.policy) (c := b.cursorAfter init)
      (s := .runtime f) halign (by rw [← hend]; exact hlimit.size)
    rw [hend]
    exact Nat.dvd_trans (b.policy.dvd_aggregateAlign halign) hdvd
  refine ⟨fixed, f, element, _, ?_, hf, hleaves, hfits.mono hreach (Nat.dvd_refl _), ?_⟩
  · rw [hoffsets]
    exact List.getLast?_concat
  · intro count
    constructor
    · have hmany : last.leaves? b.policy (some count) f element =
          some (Leaf.copies (b.policy.stride f).val count element) := by
        rw [Member.leaves?, hextent]
        rfl
      rw [leaves?, hoffsets, hmembers]
      exact placedLeaves?_append b.policy b.structures (hfixed (some count))
        (placedLeaves?_singleton b.policy b.structures _ _ _ hf hleaves hmany)
    · have hcopies := hel.copies (b.policy.size_le_stride f)
        (fun hp => Policy.dvd_stride hp halign hstride) count
      exact ⟨_, _, hfits.append_shift hcopies hreach (fun _ => hoffset)
        (Nat.dvd_mul_right _ _) (Nat.dvd_mul_left _ _)⟩

end Silent

/-- In a block that is laid out in silence, the leaves of the fixed part and those of any number of
elements in a trailing array lie apart from each other, those of the fixed part inside the block,
and all of them aligned where the policy aligns. -/
theorem exists_leaves
    {b : Block}
    (hb : b.Built)
    (hquiet : b.layout.notices = [])
    (hlimit : b.BelowLimit) :
    ∃ fixed : List Leaf,
      (∀ room, 16 ≤ room → b.leaves? room 0 = some fixed) ∧
      fixed.Pairwise Leaf.Disjoint ∧
      (∀ x ∈ fixed, x.stop ≤ b.byteSize.value.val) ∧
      (b.policy ≠ .packed → ∀ x ∈ fixed, x.IsAligned) ∧
      ∀ m, b.members.values.getLast? = some m → m.isRuntime = true →
        b.layout.value.offsets.getLast? = some b.byteSize.value ∧
        ∃ f element,
          m.footprint? b.policy b.structures = some f ∧
          (∀ room, 16 ≤ room → elementLeaves? b.policy b.structures room m = some element) ∧
          ∀ count,
            (∀ room, 16 ≤ room →
              b.leaves? room count = some (fixed ++ b.tail f element count)) ∧
            (fixed ++ b.tail f element count).Pairwise Leaf.Disjoint ∧
            (b.policy ≠ .packed → ∀ x ∈ b.tail f element count, x.IsAligned) := by
  rcases hb.fixed_or_runtime with hfixed | ⟨init, last, hmembers, hinit, hlast⟩
  · obtain ⟨fixed, align, hleaves, hfits⟩ :=
      exists_leaves_of_fixed hb hquiet hlimit.size hfixed
    refine ⟨fixed, fun room hroom => leaves?_mono hroom (hleaves 0), hfits.disjoint,
      hfits.inside, hfits.aligned, ?_⟩
    intro m hm hruntime
    have hno := hfixed m (List.mem_of_getLast? hm)
    rw [hruntime] at hno
    simp at hno
  · obtain ⟨fixed, f, element, align, hend, hf, helement, hfits, htail⟩ :=
      exists_leaves_of_runtime hb hquiet hlimit hmembers hinit hlast
    have hleaves : b.leaves? Structure.nestingLimit 0 = some fixed := by
      rw [(htail 0).1, tail, Leaf.copies_zero, List.map_nil, List.append_nil]
    refine ⟨fixed, fun room hroom => leaves?_mono hroom hleaves, hfits.disjoint,
      hfits.inside, hfits.aligned, ?_⟩
    intro m hm _
    rw [hmembers, List.getLast?_concat, Option.some.injEq] at hm
    subst hm
    refine ⟨hend, f, element, hf,
      fun room hroom => elementLeaves?_mono b.policy b.structures hroom helement, ?_⟩
    intro count
    obtain ⟨hcount, size, align', hall⟩ := htail count
    exact ⟨fun room hroom => leaves?_mono hroom hcount, hall.disjoint,
      fun hp x hx => hall.aligned hp x (List.mem_append_right fixed hx)⟩

/-- A structure with an array of matrices in it. -/
def light : Structure where
  name := ⟨"Light"⟩
  members := OrderedMap.ofList
    [(⟨"direction"⟩, .single ⟨"vec3"⟩ ⟨"direction"⟩),
      (⟨"basis"⟩, ⟨⟨"mat3"⟩, ⟨"basis"⟩, .fixed 2 (by decide)⟩)]

theorem built_light :
    light.Built :=
  .addMember ⟨"basis"⟩ ⟨⟨"mat3"⟩, ⟨"basis"⟩, .fixed 2 (by decide)⟩
    (.addMember ⟨"direction"⟩ (.single ⟨"vec3"⟩ ⟨"direction"⟩) (.ofName ⟨"Light"⟩) rfl) rfl

/-- A block that ends in structures without a fixed number. -/
def lightTable : StorageBlock where
  set := 0
  binding := 1
  policy := .std430
  name := ⟨"LightTable"⟩
  instanceName := .absent
  extent := .single
  members := OrderedMap.ofList
    [(⟨"count"⟩, .single ⟨"uint"⟩ ⟨"count"⟩),
      (⟨"lights"⟩, ⟨⟨"Light"⟩, ⟨"lights"⟩, .runtime⟩)]
  structures := OrderedMap.empty.insert ⟨"Light"⟩ light
  qualifiers := ⟨0⟩

theorem built_lightTable :
    lightTable.Built :=
  .addMember ⟨"lights"⟩ ⟨⟨"Light"⟩, ⟨"lights"⟩, .runtime⟩
    (.addMember ⟨"count"⟩ (.single ⟨"uint"⟩ ⟨"count"⟩)
      (.addStructure ⟨"Light"⟩ (.ofHeader lightTable.toBlockHeader) built_light) rfl) rfl

/-- However many lights there are, no two columns or directions overlap. -/
theorem exists_leaves_lightTable :
    lightTable.toBlock.Built ∧ lightTable.toBlock.layout.notices = [] ∧
      lightTable.toBlock.BelowLimit ∧
      ∀ count, ∃ l, lightTable.leaves? 16 count = some l ∧ l.Pairwise Leaf.Disjoint := by
  have hbuilt : lightTable.toBlock.Built := .storage built_lightTable
  have hquiet : lightTable.toBlock.layout.notices = [] := by decide +kernel
  have hlimit : lightTable.toBlock.BelowLimit := ⟨by decide +kernel, by decide +kernel⟩
  obtain ⟨fixed, -, -, -, -, htail⟩ := exists_leaves hbuilt hquiet hlimit
  obtain ⟨-, f, element, -, -, hcount⟩ := htail _ rfl rfl
  exact ⟨hbuilt, hquiet, hlimit, fun count =>
    ⟨_, (hcount count).1 16 (Nat.le_refl 16), (hcount count).2.1⟩⟩

end Block
end StageInterface
