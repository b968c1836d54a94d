import Mathlib.Order.Bounds.Defs
import StageInterface.Block

/-!
# Exact layouts

The rules of layout on natural numbers, without a largest size: how far elements
of an array are apart, where members are placed, and how much room a block takes
when its structure types are followed as its layout follows them.

**Results.**
* `isLeast_leastMultiple`: rounding up gives the least multiple that is large
  enough.
* `getElem?_offsets`, `reach_take_succ`: a member starts at the least multiple of
  its alignment behind the members before it, and ends behind that by its size.
-/

namespace StageInterface

/-- Rounding up gives the least multiple of the alignment that is not below the number. -/
theorem Size.isLeast_leastMultiple
    (n : Nat)
    {align : Nat}
    (h : 0 < align) :
    IsLeast {k | align ∣ k ∧ n ≤ k} (Size.leastMultiple n align) :=
  ⟨⟨dvd_leastMultiple n (Nat.pos_iff_ne_zero.1 h), le_leastMultiple n align⟩,
    fun _ hk => leastMultiple_le hk.1 hk.2⟩

namespace Exact

/-- The room that a value takes and the alignment of its start. -/
structure Footprint where
  size : Nat
  align : Nat

/-- What the placement of a member depends on. -/
inductive Shape
  | sized (footprint : Footprint)
  | runtime (element : Footprint)

/-- The footprint of a whole and the offset of each of its members. -/
structure Placement where
  footprint : Footprint
  offsets : List Nat

section Rules

variable (p : Policy)

/-- The distance between the starts of two consecutive array elements. -/
def stride
    (e : Footprint) : Nat :=
  match p with
  | .packed => e.size
  | .std140 => Size.leastMultiple e.size (max e.align 16)
  | .std430 => Size.leastMultiple e.size e.align

/-- The alignment of an array or structure whose parts have alignment `a`. -/
def aggregateAlign
    (a : Nat) : Nat :=
  match p with
  | .std140 => Size.leastMultiple a 16
  | .packed | .std430 => a

def array
    (e : Footprint)
    (count : Nat) : Footprint :=
  ⟨stride p e * count, aggregateAlign p e.align⟩

def vector
    (s : Scalar)
    (components : Nat) : Footprint :=
  ⟨s.byteSize * components, p.vectorAlign s.byteSize components⟩

/-- The footprint of a built-in type, unless it has no place in buffer memory. -/
def builtin? : BuiltinType → Option Footprint
  | .void => none
  | .handle => none
  | .scalar s => some ⟨s.byteSize, s.byteSize⟩
  | .vector s components => some (vector p s components)
  | .matrix s columns rows => some (array p (vector p s rows) columns)

namespace Shape

/-- The room that a member takes behind its start. -/
def size : Shape → Nat
  | sized f => f.size
  | runtime _ => 0

/-- The alignment of a member's start, at least one byte. -/
def align : Shape → Nat
  | sized f => max f.align 1
  | runtime e => max (aggregateAlign p e.align) 1

def isRuntime : Shape → Bool
  | sized _ => false
  | runtime _ => true

theorem align_pos
    (s : Shape) :
    0 < s.align p := by
  cases s with
  | sized f => exact Nat.le_max_right f.align 1
  | runtime e => exact Nat.le_max_right (aggregateAlign p e.align) 1

end Shape

/-- The end of the last of some members that are placed from `start` on. -/
def reach
    (start : Nat) :
    List Shape → Nat
  | [] => start
  | s :: l => reach (Size.leastMultiple start (s.align p) + s.size) l

/-- The offsets of members that are placed from `start` on. -/
def offsets
    (start : Nat) :
    List Shape → List Nat
  | [] => []
  | s :: l =>
      Size.leastMultiple start (s.align p) ::
        offsets (Size.leastMultiple start (s.align p) + s.size) l

/-- The largest alignment of a member, and of `a`. -/
def largestAlign
    (a : Nat)
    (l : List Shape) : Nat :=
  l.foldl (fun a s => max a (s.align p)) a

/-- Places members one after the other.  The whole ends where its last member ends, or at the next
multiple of its alignment. -/
def place
    (l : List Shape) : Placement where
  footprint :=
    { size :=
        if p = .packed ∨ l.any Shape.isRuntime then reach p 0 l
        else Size.leastMultiple (reach p 0 l) (aggregateAlign p (largestAlign p 1 l))
      align := aggregateAlign p (largestAlign p 1 l) }
  offsets := offsets p 0 l

/-- A member starts at the least multiple of its alignment behind the members before it. -/
theorem getElem?_offsets
    (start : Nat)
    {l : List Shape}
    {i : Nat}
    {s : Shape}
    (hs : l[i]? = some s) :
    (offsets p start l)[i]? =
      some (Size.leastMultiple (reach p start (l.take i)) (s.align p)) := by
  induction l generalizing start i with
  | nil => simp at hs
  | cons s' l ih =>
      cases i with
      | zero =>
          rw [List.getElem?_cons_zero, Option.some.injEq] at hs
          subst hs
          rfl
      | succ i =>
          rw [List.getElem?_cons_succ] at hs
          exact ih _ hs

theorem reach_append
    (start : Nat)
    (l l' : List Shape) :
    reach p start (l ++ l') = reach p (reach p start l) l' := by
  induction l generalizing start with
  | nil => rfl
  | cons s l ih => exact ih _

/-- A member ends behind its start by its size. -/
theorem reach_take_succ
    (start : Nat)
    {l : List Shape}
    {i : Nat}
    {s : Shape}
    (hs : l[i]? = some s) :
    reach p start (l.take (i + 1)) =
      Size.leastMultiple (reach p start (l.take i)) (s.align p) + s.size := by
  rw [List.take_add_one, hs, reach_append]
  rfl

end Rules

section Resolution

variable (p : Policy)

/-- The shape of a member, given the footprint of one element of it, if it has one. -/
def memberShape
    (m : Member) :
    Option Footprint → Shape
  | none => .sized ⟨0, 1⟩
  | some f =>
      match m.extent with
      | .single => .sized f
      | .fixed count _ => .sized (array p f count.toNat)
      | .runtime => .runtime f

/-- The footprint of one element of a member, following structures at most `room` levels. -/
def elementFootprint?
    (scope : Scope)
    (room : Nat)
    (m : Member) :
    Option Footprint :=
  match m.builtin?, room with
  | some t, _ => builtin? p t
  | none, 0 => none
  | none, room + 1 => do
      let s ← scope.get? m.type
      let shapes := s.members.values.map fun m' =>
        memberShape p m' (elementFootprint? scope room m')
      some (place p shapes).footprint

/-- The layout of the block's body under its own policy. -/
def blockLayout
    (b : Block) : Placement :=
  place b.policy <| b.members.values.map fun m =>
    memberShape b.policy m
      (elementFootprint? b.policy b.structures Structure.nestingLimit m)

end Resolution

end Exact
end StageInterface
