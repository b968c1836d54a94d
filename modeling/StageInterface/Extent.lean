/-!
# Array extents

How many elements a variable, a member or a block instance has: it is a single
value, an array of fixed length, or an array whose length the bound buffer
gives at run time.
-/

namespace StageInterface

/-- Array dimension of a declared name. -/
inductive Extent
  | single
  | fixed (count : UInt32) (count_ne_zero : count ≠ 0)
  /-- An array that the bound buffer sizes. -/
  | runtime
deriving DecidableEq

namespace Extent

instance : Inhabited Extent := ⟨single⟩

/-- The extent of `count` elements; no element at all means no array. -/
def ofCount (count : UInt32) : Extent :=
  if h : count = 0 then single else fixed count h

/-- Reads the signed convention: negative is sized at run time, zero is no array.  A count above
the longest array is read as the longest array. -/
def ofCode (code : Int) : Extent :=
  if code < 0 then runtime else ofCount (UInt32.ofNatClamp code.toNat)

/-- The largest count that the signed convention writes. -/
def maxCode : Nat := 2147483647

/-- Writes the signed convention; longer arrays are written as the largest code. -/
def code : Extent → Int
  | single => 0
  | fixed count _ => Int.ofNat (min count.toNat maxCode)
  | runtime => -1

def isFixed : Extent → Bool
  | fixed _ _ => true
  | _ => false

def isRuntime : Extent → Bool
  | runtime => true
  | _ => false

/-- The number of elements, unknown for an array sized at run time. -/
def count? : Extent → Option Nat
  | single => some 1
  | fixed count _ => some count.toNat
  | runtime => none

/-- What is written behind the declared name. -/
def suffix : Extent → String
  | single => ""
  | fixed count _ => "[" ++ toString count.toNat ++ "]"
  | runtime => "[]"

theorem isRuntime_iff {e : Extent} : e.isRuntime = true ↔ e = runtime := by
  cases e <;> simp [isRuntime]

end Extent
end StageInterface
