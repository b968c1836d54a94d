import StageInterface.BuiltinType
import StageInterface.Size

/-!
# Memory layout policies

How much room a type takes in buffer memory and where it may start, under the
three layouts a block can ask for.

| rule | `std430` | `std140` | `packed` |
|---|---|---|---|
| scalar | size and alignment of the component | same | same |
| two-component vector | alignment of two components | same | of one |
| three or four components | alignment of four components | same | of one |
| array stride | element size rounded up to its alignment | at least to 16 | element size |
| alignment of an array or structure | of its parts | rounded up to 16 | of its parts |

A matrix is laid out as an array of its columns.
-/

namespace StageInterface

/-- Memory layout of a buffer-backed block. -/
inductive Policy
  | packed
  | std140
  | std430
deriving DecidableEq, Repr

/-- The room that a value takes and the alignment of its start. -/
structure Footprint where
  size : Size
  align : Size
deriving DecidableEq, Inhabited, Repr

namespace Policy

instance : Inhabited Policy := ⟨std140⟩

def all : List Policy := [packed, std140, std430]

def keyword : Policy → String
  | packed => "packed"
  | std140 => "std140"
  | std430 => "std430"

def ofKeyword? (text : String) : Option Policy :=
  all.find? (fun p => p.keyword = text)

/-- Alignment of a vector: of one component when packed, else of two or of four components. -/
def vectorAlign (p : Policy) (component components : Nat) : Nat :=
  match p with
  | packed => component
  | std140 | std430 => if components = 2 then component * 2 else component * 4

/-- A vector is its components side by side. -/
def vector (p : Policy) (s : Scalar) (components : Nat) : Footprint :=
  ⟨Size.ofNat (s.byteSize * components), Size.ofNat (p.vectorAlign s.byteSize components)⟩

/-- The distance between the starts of two consecutive array elements. -/
def stride (p : Policy) (element : Footprint) : Size :=
  match p with
  | packed => element.size
  | std140 => element.size.roundUp (max element.align 16)
  | std430 => element.size.roundUp element.align

/-- The alignment of an array or structure whose parts have alignment `a`. -/
def aggregateAlign (p : Policy) (a : Size) : Size :=
  match p with
  | std140 => a.roundUp 16
  | packed | std430 => a

/-- The footprint of an array of `count` elements. -/
def array (p : Policy) (element : Footprint) (count : Nat) : Footprint :=
  ⟨(p.stride element).times count, p.aggregateAlign element.align⟩

/-- The footprint of a built-in type, unless it has no place in buffer memory. -/
def builtin? (p : Policy) : BuiltinType → Option Footprint
  | .void => none
  | .handle => none
  | .scalar s => some ⟨Size.ofNat s.byteSize, Size.ofNat s.byteSize⟩
  | .vector s components => some (p.vector s components)
  | .matrix s columns rows => some (p.array (p.vector s rows) columns)

theorem ofKeyword?_keyword (p : Policy) : ofKeyword? p.keyword = some p := by
  cases p <;> decide

end Policy
end StageInterface
