import Mathlib.Tactic.IntervalCases
import StageInterface.Proofs.Layout.Resolution

/-!
# Alignments

Alignments in buffer memory are powers of two of at most 32 bytes
(`Size.IsAlignment`).  Two powers of two divide one another as they compare, so
that the largest alignment of some parts is a multiple of each of them.

The property holds of built-in types and is kept by arrays, by the placement of
members and by the resolution of structure types, with or without notices.

**Results.**
* `isAlignment_aggregateAlign`, `dvd_aggregateAlign`: rounding the alignment of
  an array or structure keeps it a power of two and a multiple of itself.
* `isAlignment_place`: the whole is aligned if its members are.
* `isAlignment_elementFootprint?`: every resolution finds aligned footprints.
-/

namespace StageInterface

namespace Size

/-- A power of two of at most 32 bytes. -/
def IsAlignment
    (a : Size) : Prop :=
  ∃ k ≤ 5, a.val = 2 ^ k

namespace IsAlignment

variable {a b : Size}

theorem pos
    (ha : a.IsAlignment) :
    0 < a.val := by
  obtain ⟨k, -, hk⟩ := ha
  rw [hk]
  exact Nat.two_pow_pos k

theorem dvd_of_le
    (ha : a.IsAlignment)
    (hb : b.IsAlignment)
    (hle : a.val ≤ b.val) :
    a.val ∣ b.val := by
  obtain ⟨k, -, hk⟩ := ha
  obtain ⟨l, -, hl⟩ := hb
  rw [hk, hl] at hle ⊢
  exact Nat.pow_dvd_pow 2 ((Nat.pow_le_pow_iff_right (by decide)).1 hle)

theorem max
    (ha : a.IsAlignment)
    (hb : b.IsAlignment) :
    (max a b).IsAlignment := by
  obtain ⟨k, hk, hak⟩ := ha
  obtain ⟨l, hl, hbl⟩ := hb
  rcases Nat.le_total a.val b.val with hle | hle
  · exact ⟨l, hl, by rw [val_max, Nat.max_eq_right hle, hbl]⟩
  · exact ⟨k, hk, by rw [val_max, Nat.max_eq_left hle, hak]⟩

theorem dvd_max_left
    (ha : a.IsAlignment)
    (hb : b.IsAlignment) :
    a.val ∣ (Max.max a b).val := by
  refine ha.dvd_of_le (ha.max hb) ?_
  rw [val_max]
  exact Nat.le_max_left a.val b.val

theorem dvd_max_right
    (ha : a.IsAlignment)
    (hb : b.IsAlignment) :
    b.val ∣ (Max.max a b).val := by
  refine hb.dvd_of_le (ha.max hb) ?_
  rw [val_max]
  exact Nat.le_max_right a.val b.val

end IsAlignment

section Exact

variable {a b : Size}

theorem val_ofNat_of_lt
    {n : Nat}
    (h : (ofNat n).val < limit) :
    (ofNat n).val = n := by
  rw [val_ofNat] at h ⊢
  omega

/-- A sum below the limit is exact. -/
theorem val_add_of_lt
    (h : (a + b).val < limit) :
    (a + b).val = a.val + b.val := by
  rw [val_add] at h ⊢
  omega

/-- A product below the limit is exact. -/
theorem val_times_of_lt
    {n : Nat}
    (h : (a.times n).val < limit) :
    (a.times n).val = a.val * n := by
  rw [val_times] at h ⊢
  omega

/-- A size rounded up is a multiple of the alignment, unless it has reached the limit. -/
theorem dvd_roundUp
    (hb : b.IsAlignment)
    (h : (a.roundUp b).val < limit) :
    b.val ∣ (a.roundUp b).val := by
  have hexact : (a.roundUp b).val = leastMultiple a.val b.val := by
    rw [val_roundUp] at h ⊢
    omega
  rw [hexact]
  exact dvd_leastMultiple a.val (Nat.pos_iff_ne_zero.1 hb.pos)

end Exact

theorem isAlignment_one :
    (1 : Size).IsAlignment :=
  ⟨0, by decide, rfl⟩

theorem isAlignment_sixteen :
    (16 : Size).IsAlignment :=
  ⟨4, by decide, rfl⟩

/-- Rounding an alignment up to sixteen bytes takes the larger one. -/
theorem roundUp_sixteen
    {a : Size}
    (ha : a.IsAlignment) :
    a.roundUp 16 = Max.max a 16 := by
  obtain ⟨k, hk, hak⟩ := ha
  refine Size.ext ?_
  rw [val_roundUp, val_max, hak]
  interval_cases k <;> rfl

end Size

namespace Policy

variable (p : Policy)

theorem isAlignment_aggregateAlign
    {a : Size}
    (ha : a.IsAlignment) :
    (p.aggregateAlign a).IsAlignment := by
  cases p with
  | packed => exact ha
  | std140 =>
      rw [aggregateAlign, Size.roundUp_sixteen ha]
      exact ha.max Size.isAlignment_sixteen
  | std430 => exact ha

theorem dvd_aggregateAlign
    {a : Size}
    (ha : a.IsAlignment) :
    a.val ∣ (p.aggregateAlign a).val := by
  cases p with
  | packed => exact dvd_rfl
  | std140 =>
      rw [aggregateAlign, Size.roundUp_sixteen ha]
      exact ha.dvd_max_left Size.isAlignment_sixteen
  | std430 => exact dvd_rfl

/-- Consecutive elements do not overlap. -/
theorem size_le_stride
    (e : Footprint) :
    e.size ≤ p.stride e := by
  cases p with
  | packed => exact Nat.le_refl e.size.val
  | std140 => exact Size.le_roundUp e.size _
  | std430 => exact Size.le_roundUp e.size _

/-- Where the policy aligns, each element starts at a multiple of its alignment. -/
theorem dvd_stride
    {p : Policy}
    (hp : p ≠ .packed)
    {e : Footprint}
    (he : e.align.IsAlignment)
    (h : (p.stride e).val < Size.limit) :
    e.align.val ∣ (p.stride e).val := by
  cases p with
  | packed => exact absurd rfl hp
  | std140 =>
      have hmax := he.dvd_max_left Size.isAlignment_sixteen
      exact Nat.dvd_trans hmax
        (Size.dvd_roundUp (he.max Size.isAlignment_sixteen) h)
  | std430 => exact Size.dvd_roundUp he h

theorem vectorAlign_le
    (s : Scalar)
    (components : Nat) :
    p.vectorAlign s.byteSize components ≤ 32 := by
  have hcomponent : s.byteSize ≤ 8 := by
    cases s <;> simp [Scalar.byteSize]
  unfold vectorAlign
  cases p with
  | packed => exact Nat.le_trans hcomponent (by decide)
  | std140 | std430 =>
      dsimp only
      split <;> omega

theorem isAlignment_vector
    (s : Scalar)
    (components : Nat) :
    (p.vector s components).align.IsAlignment := by
  have hcomponent : s.byteSize = 4 ∨ s.byteSize = 8 := by
    cases s <;> simp [Scalar.byteSize]
  unfold vector vectorAlign
  cases p with
  | packed =>
      rcases hcomponent with h | h <;> rw [h]
      · exact ⟨2, by decide, rfl⟩
      · exact ⟨3, by decide, rfl⟩
  | std140 | std430 =>
      dsimp only
      split <;> rcases hcomponent with h | h <;> rw [h]
      · exact ⟨3, by decide, rfl⟩
      · exact ⟨4, by decide, rfl⟩
      · exact ⟨4, by decide, rfl⟩
      · exact ⟨5, by decide, rfl⟩

theorem isAlignment_builtin?
    {t : BuiltinType}
    {f : Footprint}
    (h : p.builtin? t = some f) :
    f.align.IsAlignment := by
  cases t with
  | void => simp [builtin?] at h
  | handle => simp [builtin?] at h
  | scalar s =>
      rw [builtin?, Option.some.injEq] at h
      subst h
      cases s with
      | double => exact ⟨3, by decide, rfl⟩
      | bool | int | uint | float => exact ⟨2, by decide, rfl⟩
  | vector s components =>
      rw [builtin?, Option.some.injEq] at h
      subst h
      exact p.isAlignment_vector s components
  | matrix s columns rows =>
      rw [builtin?, Option.some.injEq] at h
      subst h
      exact p.isAlignment_aggregateAlign (p.isAlignment_vector s rows)

end Policy

/-- What the placement of a member depends on has an alignment. -/
def Shape.IsAligned : Shape → Prop
  | .sized f => f.align.IsAlignment
  | .runtime e => e.align.IsAlignment

namespace Shape

variable (p : Policy)

theorem IsAligned.footprint
    {s : Shape}
    (hs : s.IsAligned) :
    (s.footprint p).align.IsAlignment := by
  cases s with
  | sized f => exact hs
  | runtime e => exact p.isAlignment_aggregateAlign hs

/-- An alignment is at least one byte already. -/
theorem IsAligned.align_eq
    {s : Shape}
    (hs : s.IsAligned) :
    s.align p = (s.footprint p).align := by
  have hpos := (hs.footprint p).pos
  refine Size.ext ?_
  rw [Shape.align, Size.val_max]
  exact Nat.max_eq_left hpos

theorem isAligned_vacant :
    vacant.IsAligned :=
  Size.isAlignment_one

end Shape

namespace Policy

variable (p : Policy)

theorem isAlignment_foldl_advance
    {l : List Shape}
    (hl : ∀ s ∈ l, s.IsAligned)
    {c : Cursor}
    (hc : c.align.IsAlignment) :
    (l.foldl (Cursor.advance p) c).align.IsAlignment := by
  induction l generalizing c with
  | nil => exact hc
  | cons s l ih =>
      have hs := hl s List.mem_cons_self
      have hadvance : (c.advance p s).align.IsAlignment := by
        rw [Cursor.advance, hs.align_eq]
        exact hc.max (hs.footprint p)
      exact ih (fun s' hs' => hl s' (List.mem_cons_of_mem s hs')) hadvance

/-- The whole is aligned if its members are. -/
theorem isAlignment_place
    {l : List Shape}
    (hl : ∀ s ∈ l, s.IsAligned) :
    (p.place l).footprint.align.IsAlignment :=
  p.isAlignment_aggregateAlign (p.isAlignment_foldl_advance hl Size.isAlignment_one)

theorem isAligned_shape
    {m : Member}
    {f : Footprint}
    (hf : f.align.IsAlignment) :
    (m.shape p f).IsAligned := by
  unfold Member.shape
  cases m.extent with
  | single => exact hf
  | fixed count _ => exact p.isAlignment_aggregateAlign hf
  | runtime => exact hf

theorem isAligned_memberShape
    {element? : Member → Noted LayoutWarning (Option Footprint)}
    {owner : Lexeme}
    {m : Member}
    (h : ∀ f, (element? m).value = some f → f.align.IsAlignment) :
    (memberShape p element? owner m).value.IsAligned := by
  cases hm : (element? m).value with
  | none =>
      rw [value_memberShape_of_none p element? owner hm]
      exact Shape.isAligned_vacant
  | some f =>
      rw [value_memberShape_of_some p element? owner hm]
      exact p.isAligned_shape (h f hm)

theorem isAlignment_placeMembers
    {element? : Member → Noted LayoutWarning (Option Footprint)}
    {owner : Lexeme}
    {members : List Member}
    (h : ∀ m ∈ members, ∀ f, (element? m).value = some f → f.align.IsAlignment) :
    (placeMembers p element? owner members).value.footprint.align.IsAlignment := by
  rw [value_placeMembers]
  refine p.isAlignment_place ?_
  intro s hs
  obtain ⟨m, hm, rfl⟩ := List.mem_map.1 hs
  exact p.isAligned_memberShape (h m hm)

/-- Every resolution finds an aligned footprint or none. -/
theorem isAlignment_elementFootprint?
    (scope : Scope)
    (room : Nat)
    (m : Member)
    (f : Footprint)
    (h : (elementFootprint? p scope room m).value = some f) :
    f.align.IsAlignment := by
  induction room, m using resolution_induction scope generalizing f with
  | builtin room m t hb =>
      rw [elementFootprint?_builtin p scope hb] at h
      exact p.isAlignment_builtin? h
  | exhausted m hb =>
      rw [elementFootprint?_zero p scope hb] at h
      simp at h
  | absent room m hb hs =>
      rw [elementFootprint?_absent p scope hb hs] at h
      simp at h
  | found room m s hb hs ih =>
      rw [elementFootprint?_structure p scope hb hs, Noted.value_map, Option.some.injEq] at h
      subst h
      exact p.isAlignment_placeMembers ih

end Policy
end StageInterface
