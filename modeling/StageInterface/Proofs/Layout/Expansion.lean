import StageInterface.Proofs.Layout.Alignment
import StageInterface.Proofs.Layout.Leaf

/-!
# Expansion of members into leaves

Where the scalars and vectors of members lie: an array has its elements one
stride apart, a matrix is an array of its columns, and a structure has its
members at the offsets of its own layout.

The expansion follows structures a given number of levels, and has no result
where that is not enough or a type has no place in buffer memory.  It is put
together from the offsets and strides of every level of nesting; that the
pieces fit is an invariant of each level (`Leaf.Fits`), carried along the
placement of members and up the nesting of structures.

**Results.**
* `elementLeaves?_mono`: more room never changes a result.
* `exists_placedLeaves?`: members whose leaves fit their shapes fit where they
  are placed.
* `exists_elementLeaves?`: what is resolved in silence, below the limit of sizes,
  has leaves that fit its footprint.
-/

namespace StageInterface

/-- The leaves of a built-in type at the first byte. -/
def BuiltinType.leaves?
    (p : Policy) :
    BuiltinType → Option (List Leaf)
  | .void => none
  | .handle => none
  | .scalar s => some [⟨0, s.byteSize, s.byteSize⟩]
  | .vector s components => some [Leaf.vector p s components]
  | .matrix s columns rows =>
      some (Leaf.copies (p.stride (p.vector s rows)).val columns [Leaf.vector p s rows])

/-- The leaves of a member, given the footprint and the leaves of one element of it.  An array
without a fixed length has as many elements as are held, if a number is given. -/
def Member.leaves?
    (p : Policy)
    (held? : Option Nat)
    (f : Footprint)
    (l : List Leaf)
    (m : Member) :
    Option (List Leaf) :=
  match m.extent with
  | .single => some l
  | .fixed count _ => some (Leaf.copies (p.stride f).val count.toNat l)
  | .runtime => held?.map (fun count => Leaf.copies (p.stride f).val count l)

/-- The leaves of members at the given offsets, given how those of one element are found. -/
def placedLeaves?
    (p : Policy)
    (scope : Scope)
    (element? : Member → Option (List Leaf))
    (held? : Option Nat) :
    List Member → List Size → Option (List Leaf)
  | [], [] => some []
  | m :: members, offset :: offsets => do
      let f ← m.footprint? p scope
      let element ← element? m
      let l ← m.leaves? p held? f element
      let rest ← placedLeaves? p scope element? held? members offsets
      pure (l.map (Leaf.shift offset.val) ++ rest)
  | _, _ => none

/-- The leaves of one element of a member, following structures at most `room` levels. -/
def elementLeaves?
    (p : Policy)
    (scope : Scope)
    (room : Nat)
    (m : Member) :
    Option (List Leaf) :=
  match m.builtin?, room with
  | some t, _ => t.leaves? p
  | none, 0 => none
  | none, room + 1 => do
      let s ← scope.get? m.type
      placedLeaves? p scope (elementLeaves? p scope room) none s.members.values
        (s.layout p scope).value.offsets

section Monotonicity

variable (p : Policy)
variable (scope : Scope)

theorem placedLeaves?_cons
    (element? : Member → Option (List Leaf))
    (held? : Option Nat)
    {m : Member}
    {f : Footprint}
    {element l rest : List Leaf}
    {members : List Member}
    {offset : Size}
    {offsets : List Size}
    (hf : m.footprint? p scope = some f)
    (helement : element? m = some element)
    (hl : m.leaves? p held? f element = some l)
    (hrest : placedLeaves? p scope element? held? members offsets = some rest) :
    placedLeaves? p scope element? held? (m :: members) (offset :: offsets) =
      some (l.map (Leaf.shift offset.val) ++ rest) := by
  rw [placedLeaves?, hf, helement]
  simp [hl, hrest]

theorem placedLeaves?_singleton
    (element? : Member → Option (List Leaf))
    (held? : Option Nat)
    {m : Member}
    {f : Footprint}
    {element l : List Leaf}
    (offset : Size)
    (hf : m.footprint? p scope = some f)
    (helement : element? m = some element)
    (hl : m.leaves? p held? f element = some l) :
    placedLeaves? p scope element? held? [m] [offset] =
      some (l.map (Leaf.shift offset.val)) := by
  have hnil : placedLeaves? p scope element? held? [] [] = some [] := rfl
  rw [placedLeaves?_cons p scope element? held? hf helement hl hnil, List.append_nil]

theorem exists_of_placedLeaves?_cons
    {element? : Member → Option (List Leaf)}
    {held? : Option Nat}
    {m : Member}
    {l : List Leaf}
    {members : List Member}
    {offset : Size}
    {offsets : List Size}
    (h : placedLeaves? p scope element? held? (m :: members) (offset :: offsets) = some l) :
    ∃ f element here rest, m.footprint? p scope = some f ∧ element? m = some element ∧
      m.leaves? p held? f element = some here ∧
      placedLeaves? p scope element? held? members offsets = some rest ∧
      l = here.map (Leaf.shift offset.val) ++ rest := by
  rw [placedLeaves?] at h
  simp only [Option.bind_eq_bind, Option.bind_eq_some_iff, Option.pure_def,
    Option.some.injEq] at h
  obtain ⟨f, hf, element, helement, here, hhere, rest, hrest, rfl⟩ := h
  exact ⟨f, element, here, rest, hf, helement, hhere, hrest, rfl⟩

theorem placedLeaves?_mono
    {element? element?' : Member → Option (List Leaf)}
    {held? : Option Nat}
    {members : List Member}
    (hmono : ∀ m ∈ members, ∀ l, element? m = some l → element?' m = some l)
    {offsets : List Size}
    {l : List Leaf}
    (h : placedLeaves? p scope element? held? members offsets = some l) :
    placedLeaves? p scope element?' held? members offsets = some l := by
  induction members generalizing offsets l with
  | nil =>
      cases offsets with
      | nil => exact h
      | cons offset offsets => simp [placedLeaves?] at h
  | cons m members ih =>
      cases offsets with
      | nil => simp [placedLeaves?] at h
      | cons offset offsets =>
          obtain ⟨f, element, here, rest, hf, helement, hhere, hrest, rfl⟩ :=
            exists_of_placedLeaves?_cons p scope h
          have hrest' := ih (fun m' hm' => hmono m' (List.mem_cons_of_mem m hm')) hrest
          exact placedLeaves?_cons p scope element?' held? hf
            (hmono m List.mem_cons_self element helement) hhere hrest'

/-- Members behind others have their leaves behind theirs. -/
theorem placedLeaves?_append
    {element? : Member → Option (List Leaf)}
    {held? : Option Nat}
    {members members' : List Member}
    {offsets offsets' : List Size}
    {l l' : List Leaf}
    (h : placedLeaves? p scope element? held? members offsets = some l)
    (h' : placedLeaves? p scope element? held? members' offsets' = some l') :
    placedLeaves? p scope element? held? (members ++ members') (offsets ++ offsets') =
      some (l ++ l') := by
  induction members generalizing offsets l with
  | nil =>
      cases offsets with
      | nil =>
          cases h
          exact h'
      | cons offset offsets => simp [placedLeaves?] at h
  | cons m members ih =>
      cases offsets with
      | nil => simp [placedLeaves?] at h
      | cons offset offsets =>
          obtain ⟨f, element, here, rest, hf, helement, hhere, hrest, rfl⟩ :=
            exists_of_placedLeaves?_cons p scope h
          rw [List.append_assoc]
          exact placedLeaves?_cons p scope element? held? hf helement hhere (ih hrest)

theorem elementLeaves?_builtin
    {m : Member}
    {t : BuiltinType}
    (h : m.builtin? = some t)
    (room : Nat) :
    elementLeaves? p scope room m = t.leaves? p := by
  rw [elementLeaves?.eq_def, h]

theorem elementLeaves?_zero
    {m : Member}
    (h : m.builtin? = none) :
    elementLeaves? p scope 0 m = none := by
  rw [elementLeaves?.eq_def, h]

theorem elementLeaves?_absent
    {m : Member}
    (h : m.builtin? = none)
    (hs : scope.get? m.type = none)
    (room : Nat) :
    elementLeaves? p scope (room + 1) m = none := by
  rw [elementLeaves?.eq_def, h]
  simp [hs]

theorem elementLeaves?_structure
    {m : Member}
    {s : Structure}
    (h : m.builtin? = none)
    (hs : scope.get? m.type = some s)
    (room : Nat) :
    elementLeaves? p scope (room + 1) m =
      placedLeaves? p scope (elementLeaves? p scope room) none s.members.values
        (s.layout p scope).value.offsets := by
  rw [elementLeaves?.eq_def, h]
  simp [hs]

/-- More room never changes a result. -/
theorem elementLeaves?_mono
    {room room' : Nat}
    (hle : room ≤ room')
    {m : Member}
    {l : List Leaf}
    (h : elementLeaves? p scope room m = some l) :
    elementLeaves? p scope room' m = some l := by
  induction room, m using resolution_induction scope generalizing room' l with
  | builtin room m t hb =>
      rw [elementLeaves?_builtin p scope hb] at h ⊢
      exact h
  | exhausted m hb =>
      rw [elementLeaves?_zero p scope hb] at h
      simp at h
  | absent room m hb hs =>
      rw [elementLeaves?_absent p scope hb hs] at h
      simp at h
  | found room m s hb hs ih =>
      obtain ⟨room', rfl⟩ : ∃ k, room' = k + 1 := ⟨room' - 1, by omega⟩
      rw [elementLeaves?_structure p scope hb hs] at h ⊢
      exact placedLeaves?_mono p scope
        (fun m' hm' l' hl' => ih m' hm' (by omega : room ≤ room') hl') h

end Monotonicity

section Fitting

variable (p : Policy)

/-- A vector below the limit of sizes is its components side by side. -/
theorem fits_vector
    {s : Scalar}
    {components : Nat}
    (hlimit : (p.vector s components).size.val < Size.limit) :
    Leaf.Fits p (p.vector s components).size.val (p.vector s components).align.val
      [Leaf.vector p s components] := by
  have hsize : (p.vector s components).size.val = s.byteSize * components :=
    Size.val_ofNat_of_lt hlimit
  have halign : (p.vector s components).align.val = p.vectorAlign s.byteSize components :=
    Nat.min_eq_left (Nat.le_trans (p.vectorAlign_le s components) (by decide))
  rw [hsize, halign]
  exact Leaf.Fits.single p _ _

/-- The leaves of a built-in type fit its footprint. -/
theorem exists_builtin_leaves?
    {t : BuiltinType}
    {f : Footprint}
    (h : p.builtin? t = some f)
    (hlimit : f.size.val < Size.limit) :
    ∃ l, t.leaves? p = some l ∧ Leaf.Fits p f.size.val f.align.val l := by
  cases t with
  | void => simp [Policy.builtin?] at h
  | handle => simp [Policy.builtin?] at h
  | scalar s =>
      rw [Policy.builtin?, Option.some.injEq] at h
      subst h
      refine ⟨_, rfl, ?_⟩
      have hfits := Leaf.Fits.single p s.byteSize s.byteSize
      cases s <;> exact hfits
  | vector s components =>
      rw [Policy.builtin?, Option.some.injEq] at h
      subst h
      exact ⟨_, rfl, fits_vector p hlimit⟩
  | matrix s columns rows =>
      rw [Policy.builtin?, Option.some.injEq] at h
      subst h
      refine ⟨_, rfl, ?_⟩
      have hcolumn := p.isAlignment_vector s rows
      have hexact := Size.val_times_of_lt hlimit
      cases columns with
      | zero => exact Leaf.Fits.nil
      | succ columns =>
          have hstride : (p.stride (p.vector s rows)).val < Size.limit := by
            refine Nat.lt_of_le_of_lt ?_ hlimit
            rw [Policy.array, hexact]
            exact Nat.le_mul_of_pos_right _ (Nat.succ_pos columns)
          have hsize := p.size_le_stride (p.vector s rows)
          have hcopies := (fits_vector p (Nat.lt_of_le_of_lt hsize hstride)).copies hsize
            (fun hp => Policy.dvd_stride hp hcolumn hstride) (columns + 1)
          refine hcopies.mono ?_ (p.dvd_aggregateAlign hcolumn)
          rw [Policy.array, hexact, Nat.mul_comm]

/-- An element is no larger than the member. -/
theorem size_le_shape
    {m : Member}
    (hm : m.isRuntime = false)
    (f : Footprint) :
    f.size.val ≤ ((m.shape p f).footprint p).size.val := by
  rw [Member.isRuntime] at hm
  unfold Member.shape
  cases he : m.extent with
  | single => exact Nat.le_refl _
  | fixed count hcount =>
      have hpos : 0 < count.toNat := by
        refine Nat.pos_of_ne_zero ?_
        intro hzero
        exact hcount (UInt32.toNat_inj.1 hzero)
      have hstride : f.size.val ≤ (p.stride f).val := p.size_le_stride f
      have hle := f.size.val_le
      have htimes : (p.stride f).val ≤ (p.stride f).val * count.toNat :=
        Nat.le_mul_of_pos_right _ hpos
      show f.size.val ≤ ((p.stride f).times count.toNat).val
      rw [Size.val_times]
      simp only [Size.limit]
      omega
  | runtime =>
      rw [he] at hm
      simp [Extent.isRuntime] at hm

/-- If the leaves of an element fit its footprint, those of the member fit its shape. -/
theorem exists_member_leaves?
    {m : Member}
    (hm : m.isRuntime = false)
    {f : Footprint}
    (hf : f.align.IsAlignment)
    {l : List Leaf}
    (hl : Leaf.Fits p f.size.val f.align.val l)
    (hlimit : ((m.shape p f).footprint p).size.val < Size.limit) :
    ∃ l', (∀ held?, m.leaves? p held? f l = some l') ∧
      Leaf.Fits p ((m.shape p f).footprint p).size.val
        ((m.shape p f).footprint p).align.val l' := by
  rw [Member.isRuntime] at hm
  unfold Member.leaves? Member.shape at *
  cases he : m.extent with
  | single => exact ⟨l, fun _ => rfl, hl⟩
  | fixed count hcount =>
      rw [he] at hlimit
      have hexact := Size.val_times_of_lt hlimit
      refine ⟨_, fun _ => rfl, ?_⟩
      have hpos : 0 < count.toNat := by
        refine Nat.pos_of_ne_zero ?_
        intro hzero
        exact hcount (UInt32.toNat_inj.1 hzero)
      have hstride : (p.stride f).val < Size.limit := by
        refine Nat.lt_of_le_of_lt ?_ hlimit
        show (p.stride f).val ≤ ((p.stride f).times count.toNat).val
        rw [hexact]
        exact Nat.le_mul_of_pos_right _ hpos
      have hcopies :=
        hl.copies (p.size_le_stride f) (fun hp => Policy.dvd_stride hp hf hstride) count.toNat
      refine hcopies.mono ?_ (p.dvd_aggregateAlign hf)
      show count.toNat * (p.stride f).val ≤ ((p.stride f).times count.toNat).val
      rw [hexact, Nat.mul_comm]
  | runtime =>
      rw [he] at hm
      simp [Extent.isRuntime] at hm

end Fitting

section Placement

variable {p : Policy}
variable {c : Cursor}

theorem reach_le_advance
    (p : Policy)
    (c : Cursor)
    (s : Shape) :
    c.reach.val ≤ (c.advance p s).reach.val := by
  have hoffset : c.reach.val ≤ (c.offset p s).val := Size.le_roundUp c.reach _
  have hle := (c.offset p s).val_le
  rw [Cursor.advance, Size.val_add]
  simp only [Size.limit]
  omega

theorem reach_le_foldl_advance
    (p : Policy)
    (c : Cursor)
    (l : List Shape) :
    c.reach.val ≤ (l.foldl (Cursor.advance p) c).reach.val := by
  induction l generalizing c with
  | nil => exact Nat.le_refl _
  | cons s l ih => exact Nat.le_trans (reach_le_advance p c s) (ih (c.advance p s))

/-- A member that is placed next starts at a multiple of its alignment. -/
theorem dvd_offset
    {s : Shape}
    (hs : s.IsAligned)
    (hlimit : (c.offset p s).val < Size.limit) :
    (s.footprint p).align.val ∣ (c.offset p s).val := by
  rw [Cursor.offset, hs.align_eq] at hlimit ⊢
  exact Size.dvd_roundUp (hs.footprint p) hlimit

/-- Placing one more member keeps the leaves apart and aligned. -/
theorem fits_advance
    {s : Shape}
    (hc : c.align.IsAlignment)
    (hs : s.IsAligned)
    {l l' : List Leaf}
    (hl : Leaf.Fits p c.reach.val c.align.val l)
    (hl' : Leaf.Fits p (s.footprint p).size.val (s.footprint p).align.val l')
    (hlimit : (c.advance p s).reach.val < Size.limit) :
    Leaf.Fits p (c.advance p s).reach.val (c.advance p s).align.val
      (l ++ l'.map (Leaf.shift (c.offset p s).val)) := by
  have hreach : (c.advance p s).reach.val = (c.offset p s).val + (s.footprint p).size.val :=
    Size.val_add_of_lt hlimit
  have halign : (c.advance p s).align = max c.align (s.footprint p).align := by
    rw [Cursor.advance, hs.align_eq]
  rw [hreach, halign]
  refine hl.append_shift hl' (Size.le_roundUp c.reach _) ?_ ?_ ?_
  · exact fun _ => dvd_offset hs (by omega)
  · exact hc.dvd_max_left (hs.footprint p)
  · exact hc.dvd_max_right (hs.footprint p)

/-- A member with leaves that fit the shape it is placed with, if that is below the limit. -/
def HasLeaves
    (p : Policy)
    (scope : Scope)
    (element? : Member → Option (List Leaf))
    (m : Member)
    (s : Shape) : Prop :=
  s.IsAligned ∧
    ((s.footprint p).size.val < Size.limit →
      ∃ f element l, m.footprint? p scope = some f ∧ element? m = some element ∧
        (∀ held?, m.leaves? p held? f element = some l) ∧
        Leaf.Fits p (s.footprint p).size.val (s.footprint p).align.val l)

/-- Members whose leaves fit their shapes fit where they are placed. -/
theorem exists_placedLeaves?
    {scope : Scope}
    {element? : Member → Option (List Leaf)}
    {shape : Member → Shape}
    {members : List Member}
    (h : ∀ m ∈ members, HasLeaves p scope element? m (shape m))
    (hc : c.align.IsAlignment)
    {before : List Leaf}
    (hbefore : Leaf.Fits p c.reach.val c.align.val before)
    (hlimit :
      ((members.map shape).foldl (Cursor.advance p) c).reach.val < Size.limit) :
    ∃ l, (∀ held?, placedLeaves? p scope element? held? members
        (p.offsetsFrom c (members.map shape)) = some l) ∧
      Leaf.Fits p ((members.map shape).foldl (Cursor.advance p) c).reach.val
        ((members.map shape).foldl (Cursor.advance p) c).align.val (before ++ l) := by
  induction members generalizing c before with
  | nil =>
      refine ⟨[], fun _ => rfl, ?_⟩
      rw [List.append_nil]
      exact hbefore
  | cons m members ih =>
      obtain ⟨hs, hleaves⟩ := h m List.mem_cons_self
      rw [List.map_cons, List.foldl_cons] at hlimit ⊢
      -- The cursor never goes back, so what holds of its last place holds of this one.
      have hadvance : (c.advance p (shape m)).reach.val < Size.limit :=
        Nat.lt_of_le_of_lt (reach_le_foldl_advance p _ _) hlimit
      have hreach : (c.advance p (shape m)).reach.val =
          (c.offset p (shape m)).val + ((shape m).footprint p).size.val :=
        Size.val_add_of_lt hadvance
      obtain ⟨f, element, here, hf, helement, hhere, hfits⟩ := hleaves (by omega)
      have hnext := fits_advance hc hs hbefore hfits hadvance
      have hc' : (c.advance p (shape m)).align.IsAlignment := by
        rw [Cursor.advance, hs.align_eq]
        exact hc.max (hs.footprint p)
      obtain ⟨rest, hrest, hfinal⟩ :=
        ih (fun m' hm' => h m' (List.mem_cons_of_mem m hm')) hc' hnext hlimit
      refine ⟨here.map (Leaf.shift (c.offset p (shape m)).val) ++ rest, ?_, ?_⟩
      · intro held?
        exact placedLeaves?_cons p scope element? held? hf helement (hhere held?) (hrest held?)
      · rw [← List.append_assoc]
        exact hfinal

/-- The whole is at least as large as its members reach. -/
theorem reach_le_close
    (p : Policy)
    (c : Cursor) :
    c.reach.val ≤ (c.close p).size.val := by
  rw [Cursor.close]
  dsimp only
  split
  · exact Nat.le_refl _
  · exact Size.le_roundUp c.reach _

/-- An array without a fixed length that is placed last starts where the whole ends. -/
theorem size_close_advance_runtime
    (p : Policy)
    (c : Cursor)
    (f : Footprint) :
    ((c.advance p (.runtime f)).close p).size = c.offset p (.runtime f) := by
  have hreach : (c.advance p (.runtime f)).reach = c.offset p (.runtime f) :=
    Size.ext (Nat.min_eq_left (c.offset p (.runtime f)).val_le)
  have hruntime : (c.advance p (.runtime f)).runtime = true := Bool.or_true c.runtime
  rw [Cursor.close, hruntime, ← hreach]
  exact if_pos (Or.inr rfl)

end Placement

/-- No member of a structure in the scope is sized at run time. -/
def Scope.IsFixed
    (scope : Scope) : Prop :=
  ∀ s ∈ scope.values, ∀ m ∈ s.members.values, m.isRuntime = false

section Elements

variable {p : Policy}
variable {scope : Scope}

/-- A member that is resolved in silence has leaves that fit its shape, if its element has. -/
theorem hasLeaves_of_quiet
    {room : Nat}
    (hroom : room ≤ Structure.nestingLimit)
    {owner : Lexeme}
    {m : Member}
    (hm : m.isRuntime = false)
    (hquiet : (elementFootprint? p scope room m).notices = [])
    {f : Footprint}
    (hf : (elementFootprint? p scope room m).value = some f)
    {element? : Member → Option (List Leaf)}
    (helement : f.size.val < Size.limit →
      ∃ l, element? m = some l ∧ Leaf.Fits p f.size.val f.align.val l) :
    HasLeaves p scope element? m
      (memberShape p (elementFootprint? p scope room) owner m).value := by
  have hfootprint : m.footprint? p scope = some f := by
    rw [← value_elementFootprint?_of_quiet p scope hroom hquiet, hf]
  have halign := p.isAlignment_elementFootprint? scope room m f hf
  rw [value_memberShape_of_some p _ owner hf]
  refine ⟨p.isAligned_shape halign, ?_⟩
  intro hlimit
  obtain ⟨element, hl, hfits⟩ :=
    helement (Nat.lt_of_le_of_lt (size_le_shape p hm f) hlimit)
  obtain ⟨l, hleaves, hmember⟩ := exists_member_leaves? p hm halign hfits hlimit
  exact ⟨f, element, l, hfootprint, hl, hleaves, hmember⟩

/-- What is resolved in silence, below the limit of sizes, has leaves that fit its footprint. -/
theorem exists_elementLeaves?
    (hscope : scope.IsFixed)
    {room : Nat}
    (hroom : room ≤ Structure.nestingLimit)
    {m : Member}
    (hquiet : (elementFootprint? p scope room m).notices = [])
    {f : Footprint}
    (hf : (elementFootprint? p scope room m).value = some f)
    (hlimit : f.size.val < Size.limit) :
    ∃ l, elementLeaves? p scope room m = some l ∧ Leaf.Fits p f.size.val f.align.val l := by
  induction room, m using resolution_induction scope generalizing f with
  | builtin room m t hb =>
      rw [elementFootprint?_builtin p scope hb] at hf
      rw [elementLeaves?_builtin p scope hb]
      exact exists_builtin_leaves? p hf hlimit
  | exhausted m hb =>
      rw [elementFootprint?_zero p scope hb] at hquiet
      simp at hquiet
  | absent room m hb hs =>
      rw [elementFootprint?_absent p scope hb hs] at hf
      simp at hf
  | found room m s hb hs ih =>
      rw [elementFootprint?_structure p scope hb hs, Noted.notices_map] at hquiet
      rw [elementFootprint?_structure p scope hb hs, Noted.value_map, Option.some.injEq] at hf
      subst hf
      have hroom' : room ≤ Structure.nestingLimit := by omega
      have hlayout := layout_eq_of_quiet p scope hroom' hquiet
      have hmem : s ∈ scope.values := OrderedMap.mem_values_iff.2 ⟨m.type, hs⟩
      rw [notices_placeMembers_eq_nil_iff] at hquiet
      have hleaves : ∀ m' ∈ s.members.values,
          HasLeaves p scope (elementLeaves? p scope room) m'
            (memberShape p (elementFootprint? p scope room) s.name m').value := by
        intro m' hm'
        obtain ⟨hquiet', f', hf'⟩ := hquiet m' hm'
        exact hasLeaves_of_quiet hroom' (hscope s hmem m' hm') hquiet' hf'
          (ih m' hm' hroom' hquiet' hf')
      rw [elementLeaves?_structure p scope hb hs, hlayout]
      rw [value_placeMembers] at hlimit ⊢
      have hreach := Nat.lt_of_le_of_lt (reach_le_close p _) hlimit
      obtain ⟨l, hl, hfits⟩ :=
        exists_placedLeaves? hleaves Size.isAlignment_one Leaf.Fits.nil hreach
      refine ⟨l, hl none, ?_⟩
      refine hfits.mono (reach_le_close p _) ?_
      refine p.dvd_aggregateAlign (p.isAlignment_foldl_advance ?_ Size.isAlignment_one)
      intro shape hshape
      obtain ⟨m', hm', rfl⟩ := List.mem_map.1 hshape
      exact (hleaves m' hm').1

end Elements

end StageInterface
