import StageInterface.Layout.Policy

/-!
# Placement of members

Members are placed one after the other, each at the first aligned offset behind
the member before it.  A trailing array without a fixed length takes its place
but adds no size: the size of the whole is then that of its fixed part.

**Results.**
* `length_offsets_place`: there is one offset for each member.
* `offsetsFrom_append`: later members do not move earlier ones.
-/

namespace StageInterface

/-- What the placement of a member depends on. -/
inductive Shape
  /-- A member of known size. -/
  | sized (footprint : Footprint)
  /-- An array without a fixed length, of elements of known size. -/
  | runtime (element : Footprint)
deriving DecidableEq

/-- The footprint of a whole and the offset of each of its members. -/
structure Placement where
  footprint : Footprint
  offsets : List Size
deriving DecidableEq

namespace Shape

/-- The room that a member takes. -/
def footprint (p : Policy) : Shape → Footprint
  | sized f => f
  | runtime e => ⟨0, p.aggregateAlign e.align⟩

/-- The alignment of a member's start, at least one byte. -/
def align (p : Policy) (s : Shape) : Size := max (s.footprint p).align 1

def isRuntime : Shape → Bool
  | sized _ => false
  | runtime _ => true

end Shape

/-- How far the members placed so far reach, and what they ask of the whole. -/
structure Cursor where
  /-- The end of the last member. -/
  reach : Size
  /-- The largest alignment of a member. -/
  align : Size
  /-- Some member has no fixed size. -/
  runtime : Bool
deriving DecidableEq

namespace Cursor

/-- Before the first member. -/
def start : Cursor := ⟨0, 1, false⟩

/-- Where the next member goes. -/
def offset (p : Policy) (c : Cursor) (s : Shape) : Size := c.reach.roundUp (s.align p)

/-- Behind the next member. -/
def advance (p : Policy) (c : Cursor) (s : Shape) : Cursor where
  reach := c.offset p s + (s.footprint p).size
  align := max c.align (s.align p)
  runtime := c.runtime || s.isRuntime

/-- The whole: it ends where its last member ends, or at the next multiple of its alignment. -/
def close (p : Policy) (c : Cursor) : Footprint where
  size := if p = .packed ∨ c.runtime then c.reach else c.reach.roundUp (p.aggregateAlign c.align)
  align := p.aggregateAlign c.align

end Cursor

namespace Policy

/-- The offsets of members placed behind a cursor. -/
def offsetsFrom (p : Policy) (c : Cursor) : List Shape → List Size
  | [] => []
  | s :: l => c.offset p s :: offsetsFrom p (c.advance p s) l

def place (p : Policy) (l : List Shape) : Placement where
  footprint := (l.foldl (Cursor.advance p) Cursor.start).close p
  offsets := p.offsetsFrom Cursor.start l

theorem length_offsetsFrom (p : Policy) (c : Cursor) (l : List Shape) :
    (p.offsetsFrom c l).length = l.length := by
  induction l generalizing c with
  | nil => rfl
  | cons s l ih => simp [offsetsFrom, ih]

/-- There is one offset for each member. -/
theorem length_offsets_place (p : Policy) (l : List Shape) :
    (p.place l).offsets.length = l.length :=
  length_offsetsFrom p Cursor.start l

/-- Later members do not move earlier ones. -/
theorem offsetsFrom_append (p : Policy) (c : Cursor) (l l' : List Shape) :
    p.offsetsFrom c (l ++ l') =
      p.offsetsFrom c l ++ p.offsetsFrom (l.foldl (Cursor.advance p) c) l' := by
  induction l generalizing c with
  | nil => rfl
  | cons s l ih => simp [offsetsFrom, ih]

end Policy
end StageInterface
