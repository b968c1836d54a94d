import Mathlib.Data.List.Forall2
import StageInterface.Proofs.Layout.Alignment

/-!
# Policies compared

Members laid out `packed` take no more room than under `std430`, and there no
more than under `std140`.  Rounding up is not monotone in the alignment as such:
it is along divisibility, and alignments divide one another as they compare
because they are powers of two.  So a footprint lies within another one when it
is not larger, not aligned further, and both are aligned to powers of two
(`Footprint.Within`).

Each step of a layout keeps its result within that of the looser policy, also
where a size is capped, a type is unknown or structures contain themselves.

**Results.**
* `Policy.Tighter.array`, `Policy.Tighter.place`: arrays and whole placements
  stay within each other.
* `Policy.Tighter.elementFootprint?`: so does the footprint of a member, at any
  depth of structures.
* `Policy.packed_le_std430_le_std140`: the offsets and the size of any members.
-/

namespace StageInterface

namespace Size

/-- A multiple of a further alignment is large enough for the smaller number too. -/
theorem leastMultiple_le_leastMultiple
    {m n a b : Nat}
    (hmn : m ≤ n)
    (hab : a ∣ b)
    (hb : b ≠ 0) :
    leastMultiple m a ≤ leastMultiple n b :=
  leastMultiple_le (Nat.dvd_trans hab (dvd_leastMultiple n hb))
    (Nat.le_trans hmn (le_leastMultiple n b))

theorem roundUp_le_roundUp
    {a b x y : Size}
    (hab : a ≤ b)
    (hxy : x ≤ y)
    (hx : x.IsAlignment)
    (hy : y.IsAlignment) :
    a.roundUp x ≤ b.roundUp y :=
  val_mono_ofNat <|
    leastMultiple_le_leastMultiple hab (hx.dvd_of_le hy hxy) (Nat.pos_iff_ne_zero.1 hy.pos)

theorem add_le_add
    {a b c d : Size}
    (hab : a ≤ b)
    (hcd : c ≤ d) :
    a + c ≤ b + d :=
  val_mono_ofNat (Nat.add_le_add hab hcd)

theorem times_le_times
    {a b : Size}
    (hab : a ≤ b)
    (n : Nat) :
    a.times n ≤ b.times n :=
  val_mono_ofNat (Nat.mul_le_mul_right n hab)

theorem max_le_max
    {a b c d : Size}
    (hab : a ≤ b)
    (hcd : c ≤ d) :
    max a c ≤ max b d := by
  rw [le_iff] at hab hcd
  rw [le_iff, val_max, val_max]
  omega

end Size

/-- Policies next to each other: the first one leaves no more room between members. -/
inductive Policy.Tighter : Policy → Policy → Prop
  | packed : Tighter .packed .std430
  | std430 : Tighter .std430 .std140

/-- A footprint takes no more room than another one and is not aligned further. -/
structure Footprint.Within
    (f g : Footprint) : Prop where
  size_le : f.size ≤ g.size
  align_le : f.align ≤ g.align
  left : f.align.IsAlignment
  right : g.align.IsAlignment

/-- Shapes of the same form, the one within the other. -/
inductive Shape.Within : Shape → Shape → Prop
  | sized {f g : Footprint} (h : f.Within g) : Within (.sized f) (.sized g)
  | runtime {f g : Footprint} (h : f.Within g) : Within (.runtime f) (.runtime g)

/-- Members placed so far reach no further than others and are not aligned further. -/
structure Cursor.Within
    (c d : Cursor) : Prop where
  reach_le : c.reach ≤ d.reach
  align_le : c.align ≤ d.align
  left : c.align.IsAlignment
  right : d.align.IsAlignment
  runtime_eq : c.runtime = d.runtime

namespace Policy.Tighter

variable {p q : Policy}

/-- Alignments of parts that compare give alignments of the whole that compare. -/
theorem aggregateAlign
    (h : p.Tighter q)
    {a b : Size}
    (hab : a ≤ b)
    (hb : b.IsAlignment) :
    p.aggregateAlign a ≤ q.aggregateAlign b := by
  cases h with
  | packed => exact hab
  | std430 =>
      rw [Policy.aggregateAlign, Policy.aggregateAlign, Size.roundUp_sixteen hb]
      rw [Size.le_iff] at hab ⊢
      rw [Size.val_max]
      omega

theorem stride
    (h : p.Tighter q)
    {f g : Footprint}
    (hfg : f.Within g) :
    p.stride f ≤ q.stride g := by
  cases h with
  | packed => exact Nat.le_trans hfg.size_le (Size.le_roundUp g.size g.align)
  | std430 =>
      have hmax : f.align ≤ max g.align 16 := by
        have hle := hfg.align_le
        rw [Size.le_iff] at hle ⊢
        rw [Size.val_max]
        omega
      exact Size.roundUp_le_roundUp hfg.size_le hmax hfg.left
        (hfg.right.max Size.isAlignment_sixteen)

theorem array
    (h : p.Tighter q)
    {f g : Footprint}
    (hfg : f.Within g)
    (count : Nat) :
    (p.array f count).Within (q.array g count) where
  size_le := Size.times_le_times (h.stride hfg) count
  align_le := h.aggregateAlign hfg.align_le hfg.right
  left := p.isAlignment_aggregateAlign hfg.left
  right := q.isAlignment_aggregateAlign hfg.right

theorem vector
    (h : p.Tighter q)
    (s : Scalar)
    (components : Nat) :
    (p.vector s components).Within (q.vector s components) where
  size_le := Nat.le_refl _
  align_le := by
    refine Size.val_mono_ofNat ?_
    cases h with
    | packed =>
        dsimp only [vectorAlign]
        split <;> omega
    | std430 => exact Nat.le_refl _
  left := p.isAlignment_vector s components
  right := q.isAlignment_vector s components

/-- The same types have a place in buffer memory. -/
theorem builtin?
    (h : p.Tighter q)
    (t : BuiltinType) :
    Option.Rel Footprint.Within (p.builtin? t) (q.builtin? t) := by
  cases t with
  | void => exact .none
  | handle => exact .none
  | scalar s =>
      have hs : (⟨Size.ofNat s.byteSize, Size.ofNat s.byteSize⟩ : Footprint).align.IsAlignment :=
        p.isAlignment_builtin? (t := .scalar s) rfl
      exact .some ⟨Nat.le_refl _, Nat.le_refl _, hs, hs⟩
  | vector s components => exact .some (h.vector s components)
  | matrix s columns rows => exact .some (h.array (h.vector s rows) columns)

section Placement

theorem footprint
    (h : p.Tighter q)
    {s t : Shape}
    (hst : s.Within t) :
    (s.footprint p).Within (t.footprint q) := by
  cases hst with
  | sized hfg => exact hfg
  | runtime hfg =>
      exact ⟨Nat.le_refl _, h.aggregateAlign hfg.align_le hfg.right,
        p.isAlignment_aggregateAlign hfg.left, q.isAlignment_aggregateAlign hfg.right⟩

theorem align
    (h : p.Tighter q)
    {s t : Shape}
    (hst : s.Within t) :
    s.align p ≤ t.align q ∧ (s.align p).IsAlignment ∧ (t.align q).IsAlignment := by
  have hfg := h.footprint hst
  exact ⟨Size.max_le_max hfg.align_le (Nat.le_refl _), hfg.left.max Size.isAlignment_one,
    hfg.right.max Size.isAlignment_one⟩

/-- The next member starts no later. -/
theorem offset
    (h : p.Tighter q)
    {c d : Cursor}
    (hcd : c.Within d)
    {s t : Shape}
    (hst : s.Within t) :
    c.offset p s ≤ d.offset q t := by
  obtain ⟨hle, hs, ht⟩ := h.align hst
  exact Size.roundUp_le_roundUp hcd.reach_le hle hs ht

theorem advance
    (h : p.Tighter q)
    {c d : Cursor}
    (hcd : c.Within d)
    {s t : Shape}
    (hst : s.Within t) :
    (c.advance p s).Within (d.advance q t) := by
  obtain ⟨hle, hs, ht⟩ := h.align hst
  refine ⟨?_, Size.max_le_max hcd.align_le hle, hcd.left.max hs, hcd.right.max ht, ?_⟩
  · exact Size.add_le_add (h.offset hcd hst) (h.footprint hst).size_le
  · have hruntime : s.isRuntime = t.isRuntime := by cases hst <;> rfl
    rw [Cursor.advance, Cursor.advance, hcd.runtime_eq, hruntime]

theorem foldl_advance
    (h : p.Tighter q)
    {l l' : List Shape}
    (hl : List.Forall₂ Shape.Within l l')
    {c d : Cursor}
    (hcd : c.Within d) :
    (l.foldl (Cursor.advance p) c).Within (l'.foldl (Cursor.advance q) d) := by
  induction hl generalizing c d with
  | nil => exact hcd
  | cons hst _ ih => exact ih (h.advance hcd hst)

theorem offsetsFrom
    (h : p.Tighter q)
    {l l' : List Shape}
    (hl : List.Forall₂ Shape.Within l l')
    {c d : Cursor}
    (hcd : c.Within d) :
    List.Forall₂ (· ≤ ·) (p.offsetsFrom c l) (q.offsetsFrom d l') := by
  induction hl generalizing c d with
  | nil => exact .nil
  | cons hst _ ih => exact .cons (h.offset hcd hst) (ih (h.advance hcd hst))

/-- The whole ends no later: a policy that rounds its end up does so in both or in the looser one
only. -/
theorem close
    (h : p.Tighter q)
    {c d : Cursor}
    (hcd : c.Within d) :
    (c.close p).Within (d.close q) := by
  have halign := h.aggregateAlign hcd.align_le hcd.right
  have hleft := p.isAlignment_aggregateAlign hcd.left
  have hright := q.isAlignment_aggregateAlign hcd.right
  refine ⟨?_, halign, hleft, hright⟩
  have hround := Size.roundUp_le_roundUp hcd.reach_le halign hleft hright
  have hup := Nat.le_trans hcd.reach_le (Size.le_roundUp d.reach (q.aggregateAlign d.align))
  unfold Cursor.close
  rw [hcd.runtime_eq]
  cases h with
  | packed =>
      cases d.runtime with
      | false => exact hup
      | true => exact hcd.reach_le
  | std430 =>
      cases d.runtime with
      | false => exact hround
      | true => exact hcd.reach_le

theorem place
    (h : p.Tighter q)
    {l l' : List Shape}
    (hl : List.Forall₂ Shape.Within l l') :
    List.Forall₂ (· ≤ ·) (p.place l).offsets (q.place l').offsets ∧
      (p.place l).footprint.Within (q.place l').footprint := by
  have hstart : Cursor.start.Within Cursor.start :=
    ⟨Nat.le_refl _, Nat.le_refl _, Size.isAlignment_one, Size.isAlignment_one, rfl⟩
  exact ⟨h.offsetsFrom hl hstart, h.close (h.foldl_advance hl hstart)⟩

end Placement

section Resolution

theorem shape
    (h : p.Tighter q)
    (m : Member)
    {f g : Footprint}
    (hfg : f.Within g) :
    (m.shape p f).Within (m.shape q g) := by
  unfold Member.shape
  cases m.extent with
  | single => exact .sized hfg
  | fixed count _ => exact .sized (h.array hfg count.toNat)
  | runtime => exact .runtime hfg

variable {element? element?' : Member → Noted LayoutWarning (Option Footprint)}

/-- A member that is not resolved is not resolved under the other policy either, and takes no
room under both. -/
theorem memberShape
    (h : p.Tighter q)
    (owner : Lexeme)
    {m : Member}
    (hm : Option.Rel Footprint.Within (element? m).value (element?' m).value) :
    (memberShape p element? owner m).value.Within (memberShape q element?' owner m).value := by
  cases hf : (element? m).value with
  | none =>
      rw [hf] at hm
      cases hg : (element?' m).value with
      | none =>
          rw [value_memberShape_of_none p element? owner hf,
            value_memberShape_of_none q element?' owner hg]
          exact .sized ⟨Nat.le_refl _, Nat.le_refl _, Size.isAlignment_one, Size.isAlignment_one⟩
      | some g =>
          rw [hg] at hm
          cases hm
  | some f =>
      rw [hf] at hm
      cases hg : (element?' m).value with
      | none =>
          rw [hg] at hm
          cases hm
      | some g =>
          rw [hg] at hm
          rw [value_memberShape_of_some p element? owner hf,
            value_memberShape_of_some q element?' owner hg]
          cases hm with
          | some hfg => exact h.shape m hfg

theorem placeMembers
    (h : p.Tighter q)
    (owner : Lexeme)
    {members : List Member}
    (hm : ∀ m ∈ members, Option.Rel Footprint.Within (element? m).value (element?' m).value) :
    let tight := (placeMembers p element? owner members).value
    let loose := (placeMembers q element?' owner members).value
    List.Forall₂ (· ≤ ·) tight.offsets loose.offsets ∧ tight.footprint.Within loose.footprint := by
  intro tight loose
  have hshapes :
      List.Forall₂ Shape.Within
        (members.map (fun m => (StageInterface.memberShape p element? owner m).value))
        (members.map (fun m => (StageInterface.memberShape q element?' owner m).value)) := by
    rw [List.forall₂_map_left_iff, List.forall₂_map_right_iff, List.forall₂_same]
    exact fun m hmem => h.memberShape owner (hm m hmem)
  have hplace := h.place hshapes
  rw [← value_placeMembers, ← value_placeMembers] at hplace
  exact hplace

/-- A member is resolved under both policies or under none, at any depth. -/
theorem elementFootprint?
    (h : p.Tighter q)
    (scope : Scope)
    (room : Nat)
    (m : Member) :
    Option.Rel Footprint.Within (elementFootprint? p scope room m).value
      (elementFootprint? q scope room m).value := by
  induction room, m using resolution_induction scope with
  | builtin room m t hb =>
      rw [elementFootprint?_builtin p scope hb, elementFootprint?_builtin q scope hb]
      exact h.builtin? t
  | exhausted m hb =>
      rw [elementFootprint?_zero p scope hb, elementFootprint?_zero q scope hb]
      exact .none
  | absent room m hb hs =>
      rw [elementFootprint?_absent p scope hb hs, elementFootprint?_absent q scope hb hs]
      exact .none
  | found room m s hb hs ih =>
      rw [elementFootprint?_structure p scope hb hs, elementFootprint?_structure q scope hb hs,
        Noted.value_map, Noted.value_map]
      exact .some (h.placeMembers s.name ih).2

end Resolution

end Policy.Tighter

namespace Policy

/-- Under `packed` no member starts later than under `std430`, and under `std430` none later than
under `std140`; the whole members take no more room either.  This holds of any members and any
structures that their types refer to. -/
theorem packed_le_std430_le_std140
    (scope : Scope)
    (owner : Lexeme)
    (members : List Member) :
    let layout : Policy → Placement := fun p =>
      (placeMembers p (elementFootprint? p scope Structure.nestingLimit) owner members).value
    (List.Forall₂ (· ≤ ·) (layout .packed).offsets (layout .std430).offsets ∧
      (layout .packed).footprint.size ≤ (layout .std430).footprint.size) ∧
    List.Forall₂ (· ≤ ·) (layout .std430).offsets (layout .std140).offsets ∧
      (layout .std430).footprint.size ≤ (layout .std140).footprint.size := by
  intro layout
  have hstep : ∀ {p q : Policy}, p.Tighter q →
      List.Forall₂ (· ≤ ·) (layout p).offsets (layout q).offsets ∧
        (layout p).footprint.size ≤ (layout q).footprint.size := by
    intro p q h
    have hresolved : ∀ m ∈ members, Option.Rel Footprint.Within
        (elementFootprint? p scope Structure.nestingLimit m).value
        (elementFootprint? q scope Structure.nestingLimit m).value :=
      fun m _ => h.elementFootprint? scope Structure.nestingLimit m
    obtain ⟨hoffsets, hfootprint⟩ := h.placeMembers owner hresolved
    exact ⟨hoffsets, hfootprint.size_le⟩
  exact ⟨hstep .packed, hstep .std430⟩

end Policy
end StageInterface
