import StageInterface.Proofs.Layout.Exact
import StageInterface.Proofs.Layout.Resolution

/-!
# Saturation

Sizes are capped at every step of a layout, and a capped size goes into the
steps after it.  Capping commutes with each step: from capped numbers a step
gives the cap of what it gives from exact ones (`Size.ofNat_add` and the lemmas
behind it).  So capping along the way comes to the same as capping once, at the
end.

**Results.**
* `Size.ofNat_leastMultiple`: this holds of rounding up, to an alignment that
  may itself be capped.
* `Exact.Placement.cap_place`: it holds of the placement of members.
* `Exact.cap_elementFootprint?`: it holds of the footprint of a member, at any
  depth of arrays and structures.
* `Policy.layout_eq_min_exact`: every size, alignment, stride and offset is the
  exact number or the cap.
-/

namespace StageInterface

namespace Size

theorem ofNat_add
    (m n : Nat) :
    ofNat (m + n) = ofNat m + ofNat n := by
  refine ext ?_
  rw [val_add, val_ofNat, val_ofNat, val_ofNat]
  omega

theorem ofNat_max
    (m n : Nat) :
    ofNat (max m n) = max (ofNat m) (ofNat n) := by
  refine ext ?_
  rw [val_max, val_ofNat, val_ofNat, val_ofNat]
  omega

theorem ofNat_mul
    (m n : Nat) :
    ofNat (m * n) = (ofNat m).times n := by
  refine ext ?_
  rw [val_times, val_ofNat, val_ofNat]
  rcases Nat.le_total m limit with hm | hm
  · rw [Nat.min_eq_left hm]
  · rw [Nat.min_eq_right hm]
    cases n with
    | zero => simp
    | succ n =>
        have hlimit : limit ≤ limit * (n + 1) := Nat.le_mul_of_pos_right limit (Nat.succ_pos n)
        have hmul : limit * (n + 1) ≤ m * (n + 1) := Nat.mul_le_mul_right (n + 1) hm
        omega

/-- A positive number is rounded up to one alignment at least. -/
theorem align_le_leastMultiple
    {n : Nat}
    (hn : 0 < n)
    (align : Nat) :
    align ≤ leastMultiple n align := by
  rcases Nat.eq_zero_or_pos align with rfl | hpos
  · exact Nat.zero_le _
  · have hle := le_leastMultiple n align
    exact Nat.le_of_dvd (by omega) (dvd_leastMultiple n (Nat.pos_iff_ne_zero.1 hpos))

/-- Rounding up and capping may change places, also when the alignment is capped. -/
theorem ofNat_leastMultiple
    (n align : Nat) :
    ofNat (leastMultiple n align) = (ofNat n).roundUp (ofNat align) := by
  refine ext ?_
  rw [val_roundUp, val_ofNat, val_ofNat, val_ofNat]
  rcases Nat.eq_zero_or_pos align with rfl | halign
  · simp [leastMultiple]
  rcases Nat.eq_zero_or_pos n with rfl | hn
  · have hzero : ∀ a : Nat, 0 < a → leastMultiple 0 a = 0 := by
      intro a ha
      exact Nat.le_zero.1 (leastMultiple_le (Nat.dvd_zero a) (Nat.le_refl 0))
    have hcap : 0 < min align limit := Nat.lt_min.2 ⟨halign, by decide⟩
    rw [Nat.zero_min, hzero align halign, hzero _ hcap]
  have hcap : 0 < min n limit := Nat.lt_min.2 ⟨hn, by decide⟩
  by_cases hexact : n ≤ limit ∧ align ≤ limit
  · rw [Nat.min_eq_left hexact.1, Nat.min_eq_left hexact.2]
  · -- One of the two is capped, and rounding up stays above both.
    have h₁ := le_leastMultiple n align
    have h₂ := align_le_leastMultiple hn align
    have h₃ := le_leastMultiple (min n limit) (min align limit)
    have h₄ := align_le_leastMultiple hcap (min align limit)
    omega

end Size

namespace Exact

/-- The numbers of a footprint as they are. -/
def Footprint.of
    (f : StageInterface.Footprint) : Footprint :=
  ⟨f.size.val, f.align.val⟩

def Footprint.cap
    (f : Footprint) : StageInterface.Footprint :=
  ⟨Size.ofNat f.size, Size.ofNat f.align⟩

def Shape.of : StageInterface.Shape → Shape
  | .sized f => .sized (.of f)
  | .runtime e => .runtime (.of e)

def Shape.cap : Shape → StageInterface.Shape
  | .sized f => .sized f.cap
  | .runtime e => .runtime e.cap

def Placement.cap
    (placement : Placement) : StageInterface.Placement :=
  ⟨placement.footprint.cap, placement.offsets.map Size.ofNat⟩

@[simp] theorem Footprint.cap_of
    (f : StageInterface.Footprint) :
    (of f).cap = f := by
  rw [cap, of, Size.ofNat_val, Size.ofNat_val]

@[simp] theorem Shape.cap_of
    (s : StageInterface.Shape) :
    (of s).cap = s := by
  cases s <;> simp [of, cap]

section Rules

variable (p : Policy)

theorem cap_stride
    (e : Footprint) :
    Size.ofNat (stride p e) = p.stride e.cap := by
  cases p with
  | packed => rfl
  | std140 =>
      rw [stride, Size.ofNat_leastMultiple, Size.ofNat_max]
      rfl
  | std430 => exact Size.ofNat_leastMultiple e.size e.align

theorem cap_aggregateAlign
    (a : Nat) :
    Size.ofNat (aggregateAlign p a) = p.aggregateAlign (Size.ofNat a) := by
  cases p with
  | packed => rfl
  | std140 => exact Size.ofNat_leastMultiple a 16
  | std430 => rfl

theorem cap_array
    (e : Footprint)
    (count : Nat) :
    (array p e count).cap = p.array e.cap count := by
  rw [array, Footprint.cap, Size.ofNat_mul, cap_stride, cap_aggregateAlign]
  rfl

theorem cap_builtin?
    (t : BuiltinType) :
    (builtin? p t).map Footprint.cap = p.builtin? t := by
  cases t with
  | matrix s columns rows => exact congrArg some (cap_array p (vector p s rows) columns)
  | void | handle | scalar | vector => rfl

namespace Shape

theorem cap_size
    (s : Shape) :
    Size.ofNat s.size = (s.cap.footprint p).size := by
  cases s <;> rfl

theorem cap_align
    (s : Shape) :
    Size.ofNat (s.align p) = s.cap.align p := by
  cases s with
  | sized f => exact Size.ofNat_max f.align 1
  | runtime e =>
      rw [align, Size.ofNat_max, cap_aggregateAlign]
      rfl

theorem isRuntime_cap
    (s : Shape) :
    s.cap.isRuntime = s.isRuntime := by
  cases s <;> rfl

end Shape

/-- The cursor at exact numbers, which it caps. -/
def cursor
    (start a : Nat)
    (runtime : Bool) : Cursor :=
  ⟨Size.ofNat start, Size.ofNat a, runtime⟩

theorem cap_offset
    (start a : Nat)
    (runtime : Bool)
    (s : Shape) :
    (cursor start a runtime).offset p s.cap =
      Size.ofNat (Size.leastMultiple start (s.align p)) := by
  rw [Size.ofNat_leastMultiple, Shape.cap_align]
  rfl

theorem cap_advance
    (start a : Nat)
    (runtime : Bool)
    (s : Shape) :
    (cursor start a runtime).advance p s.cap =
      cursor (Size.leastMultiple start (s.align p) + s.size) (max a (s.align p))
        (runtime || s.isRuntime) := by
  rw [Cursor.advance, cap_offset, ← Shape.cap_size, ← Shape.cap_align, Shape.isRuntime_cap,
    ← Size.ofNat_add]
  rw [cursor, cursor, Size.ofNat_max]

theorem cap_foldl_advance
    (start a : Nat)
    (runtime : Bool)
    (l : List Shape) :
    (l.map Shape.cap).foldl (Cursor.advance p) (cursor start a runtime) =
      cursor (reach p start l) (largestAlign p a l) (runtime || l.any Shape.isRuntime) := by
  induction l generalizing start a runtime with
  | nil =>
      rw [List.any_nil, Bool.or_false]
      rfl
  | cons s l ih =>
      rw [List.map_cons, List.foldl_cons, cap_advance, ih, List.any_cons, Bool.or_assoc]
      rfl

theorem cap_offsets
    (start a : Nat)
    (runtime : Bool)
    (l : List Shape) :
    p.offsetsFrom (cursor start a runtime) (l.map Shape.cap) =
      (offsets p start l).map Size.ofNat := by
  induction l generalizing start a runtime with
  | nil => rfl
  | cons s l ih =>
      rw [List.map_cons, Policy.offsetsFrom, cap_offset, cap_advance, ih]
      rfl

/-- Members are placed from capped numbers as from exact ones, capped at the end. -/
theorem Placement.cap_place
    (l : List Shape) :
    (place p l).cap = p.place (l.map Shape.cap) := by
  have hstart : Cursor.start = cursor 0 1 false := rfl
  rw [Policy.place, hstart, cap_foldl_advance, cap_offsets, Bool.false_or, Cursor.close]
  rw [Placement.cap, Footprint.cap, place]
  rw [apply_ite Size.ofNat, Size.ofNat_leastMultiple, cap_aggregateAlign]
  rfl

end Rules

section Resolution

variable (p : Policy)
variable (scope : Scope)

theorem cap_memberShape_some
    (m : Member)
    (f : Footprint) :
    (memberShape p m (some f)).cap = m.shape p f.cap := by
  unfold memberShape Member.shape
  cases m.extent with
  | single => rfl
  | fixed count _ => exact congrArg StageInterface.Shape.sized (cap_array p f count.toNat)
  | runtime => rfl

/-- A member that is resolved alike has the same shape, capped at the end. -/
theorem cap_memberShape
    (element? : Member → Noted LayoutWarning (Option StageInterface.Footprint))
    (owner : Lexeme)
    {m : Member}
    {f? : Option Footprint}
    (h : (element? m).value = f?.map Footprint.cap) :
    (memberShape p m f?).cap = (StageInterface.memberShape p element? owner m).value := by
  cases f? with
  | none =>
      rw [value_memberShape_of_none p element? owner h]
      rfl
  | some f =>
      rw [value_memberShape_of_some p element? owner h]
      exact cap_memberShape_some p m f

/-- Members that are resolved alike are placed alike, capped at the end. -/
theorem cap_placeMembers
    {element? : Member → Noted LayoutWarning (Option StageInterface.Footprint)}
    (owner : Lexeme)
    {found? : Member → Option Footprint}
    {members : List Member}
    (h : ∀ m ∈ members, (element? m).value = (found? m).map Footprint.cap) :
    (place p (members.map (fun m => memberShape p m (found? m)))).cap =
      (placeMembers p element? owner members).value := by
  rw [Placement.cap_place, value_placeMembers, List.map_map]
  refine congrArg p.place (List.map_congr_left ?_)
  intro m hm
  exact cap_memberShape p element? owner (h m hm)

/-- The footprint of a member is the exact one, capped at the end, at any depth. -/
theorem cap_elementFootprint?
    (room : Nat)
    (m : Member) :
    (StageInterface.elementFootprint? p scope room m).value =
      (elementFootprint? p scope room m).map Footprint.cap := by
  induction room, m using resolution_induction scope with
  | builtin room m t hb =>
      rw [elementFootprint?_builtin p scope hb, Noted.value_pure, elementFootprint?.eq_def, hb]
      exact (cap_builtin? p t).symm
  | exhausted m hb =>
      rw [elementFootprint?_zero p scope hb, elementFootprint?.eq_def, hb]
      rfl
  | absent room m hb hs =>
      rw [elementFootprint?_absent p scope hb hs, elementFootprint?.eq_def, hb]
      simp [hs]
  | found room m s hb hs ih =>
      rw [elementFootprint?_structure p scope hb hs, Noted.value_map,
        ← cap_placeMembers p s.name ih, elementFootprint?.eq_def, hb]
      simp [hs, Placement.cap]

/-- The layout of a block is the exact one, capped at the end. -/
theorem cap_blockLayout
    (b : Block) :
    (blockLayout b).cap = b.layout.value :=
  cap_placeMembers b.policy b.name
    (fun m _ => cap_elementFootprint? b.policy b.structures Structure.nestingLimit m)

end Resolution

end Exact

namespace Policy

/-- Sizes, alignments, strides and offsets are exact or the cap: capping them along the way gives
the least of the cap and what the rules give without it, for members of any sizes and alignments,
for arrays of any elements, and for blocks with any nesting of arrays and structures.  Without the
cap, a member starts at the least multiple of its alignment behind the end of the member before it,
and ends where its size says. -/
theorem layout_eq_min_exact :
    (∀ (p : Policy) (l : List Shape),
      let shapes := l.map Exact.Shape.of
      let exact := Exact.place p shapes
      (p.place l).footprint.size.val = min exact.footprint.size Size.limit ∧
      (p.place l).footprint.align.val = min exact.footprint.align Size.limit ∧
      (p.place l).offsets.map Size.val = exact.offsets.map (min · Size.limit) ∧
      ∀ (i : Nat) (s : Exact.Shape), shapes[i]? = some s →
        ∃ offset, exact.offsets[i]? = some offset ∧
          IsLeast {k | s.align p ∣ k ∧ Exact.reach p 0 (shapes.take i) ≤ k} offset ∧
          Exact.reach p 0 (shapes.take (i + 1)) = offset + s.size) ∧
    (∀ (p : Policy) (e : Footprint) (count : Nat),
      let exact := Exact.array p (.of e) count
      (p.stride e).val = min (Exact.stride p (.of e)) Size.limit ∧
      (p.array e count).size.val = min exact.size Size.limit ∧
      (p.array e count).align.val = min exact.align Size.limit) ∧
    ∀ b : Block,
      let exact := Exact.blockLayout b
      b.byteSize.value.val = min exact.footprint.size Size.limit ∧
      b.layout.value.footprint.align.val = min exact.footprint.align Size.limit ∧
      b.memberOffsets.value.map (fun e => (e.1, e.2.val)) =
        b.members.keys.zip (exact.offsets.map (min · Size.limit)) := by
  have hval : ∀ l : List Nat, (l.map Size.ofNat).map Size.val = l.map (min · Size.limit) := by
    intro l
    rw [List.map_map]
    rfl
  refine ⟨?_, ?_, ?_⟩
  · intro p l shapes exact
    have hplace : p.place l = exact.cap := by
      have hcap : shapes.map Exact.Shape.cap = l := by simp [shapes, Function.comp_def]
      rw [Exact.Placement.cap_place, hcap]
    rw [hplace]
    refine ⟨rfl, rfl, hval exact.offsets, ?_⟩
    intro i s hs
    exact ⟨_, Exact.getElem?_offsets p 0 hs, Size.isLeast_leastMultiple _ (s.align_pos p),
      Exact.reach_take_succ p 0 hs⟩
  · intro p e count exact
    have hstride : p.stride e = Size.ofNat (Exact.stride p (.of e)) := by
      rw [Exact.cap_stride, Exact.Footprint.cap_of]
    have harray : p.array e count = exact.cap := by
      rw [Exact.cap_array, Exact.Footprint.cap_of]
    rw [hstride, harray]
    exact ⟨rfl, rfl, rfl⟩
  · intro b exact
    have hlayout : b.layout.value = exact.cap := (Exact.cap_blockLayout b).symm
    rw [Block.byteSize, Block.memberOffsets, Noted.value_map, Noted.value_map, hlayout]
    refine ⟨rfl, rfl, ?_⟩
    rw [← hval, List.zip_map_right]
    rfl

end Policy
end StageInterface
