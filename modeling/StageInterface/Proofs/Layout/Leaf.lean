import StageInterface.Layout.Policy

/-!
# Leaves of buffer memory

What is read and written in buffer memory are scalars and vectors.  A leaf is
one of them at its place; arrays and structures are made of copies of leaves
that are moved up.

`Leaf.Fits` is the invariant that every aggregate keeps: its leaves lie apart
from each other and inside its size, and where the policy aligns, they start at
multiples of their alignment, however the aggregate itself is moved by multiples
of its own.

**Results.**
* `Fits.append_shift`: leaves put behind others at an aligned offset fit.
* `Fits.copies`: so do copies at a distance that is large enough and aligned.
-/

namespace StageInterface

/-- A scalar or vector at its place in buffer memory. -/
structure Leaf where
  start : Nat
  size : Nat
  align : Nat
deriving DecidableEq

namespace Leaf

/-- The first byte behind the leaf. -/
def stop (x : Leaf) : Nat := x.start + x.size

/-- The leaf moved up by a number of bytes. -/
def shift (n : Nat) (x : Leaf) : Leaf := { x with start := n + x.start }

/-- No byte belongs to both leaves. -/
def Disjoint (x y : Leaf) : Prop := x.stop ≤ y.start ∨ y.stop ≤ x.start

/-- The leaf starts at a multiple of its alignment. -/
def IsAligned (x : Leaf) : Prop := x.align ∣ x.start

/-- A vector at the first byte, its components side by side. -/
def vector (p : Policy) (s : Scalar) (components : Nat) : Leaf :=
  ⟨0, s.byteSize * components, p.vectorAlign s.byteSize components⟩

/-- Copies of leaves, one every `stride` bytes. -/
def copies (stride count : Nat) (l : List Leaf) : List Leaf :=
  (List.range count).flatMap (fun k => l.map (shift (k * stride)))

theorem stop_shift
    (n : Nat)
    (x : Leaf) :
    (x.shift n).stop = n + x.stop :=
  Nat.add_assoc n x.start x.size

theorem disjoint_shift
    {x y : Leaf}
    (n : Nat)
    (h : x.Disjoint y) :
    (x.shift n).Disjoint (y.shift n) := by
  unfold Disjoint at h ⊢
  rw [stop_shift, stop_shift]
  simp only [shift]
  omega

theorem isAligned_shift
    {x : Leaf}
    {n : Nat}
    (hn : x.align ∣ n)
    (h : x.IsAligned) :
    (x.shift n).IsAligned :=
  (Nat.dvd_add_right hn).2 h

@[simp] theorem copies_zero
    (stride : Nat)
    (l : List Leaf) :
    copies stride 0 l = [] :=
  rfl

/-- One copy more goes behind the others. -/
theorem copies_succ
    (stride count : Nat)
    (l : List Leaf) :
    copies stride (count + 1) l =
      copies stride count l ++ l.map (shift (count * stride)) := by
  simp [copies, List.range_succ]

/-- Leaves apart from each other inside `size` bytes, aligned wherever a range of alignment
`align` starts, if the policy aligns at all. -/
structure Fits
    (p : Policy)
    (size align : Nat)
    (l : List Leaf) : Prop where
  disjoint : l.Pairwise Disjoint
  inside : ∀ x ∈ l, x.stop ≤ size
  aligned : p ≠ .packed → ∀ x ∈ l, x.IsAligned
  divides : p ≠ .packed → ∀ x ∈ l, x.align ∣ align

namespace Fits

variable {p : Policy}
variable {size align size' align' : Nat}
variable {l l' : List Leaf}

theorem nil :
    Fits p size align [] :=
  ⟨List.Pairwise.nil, by simp, by simp, by simp⟩

/-- A leaf at the first byte fits its own size and alignment. -/
theorem single
    (p : Policy)
    (size align : Nat) :
    Fits p size align [⟨0, size, align⟩] where
  disjoint := List.pairwise_singleton _ _
  inside := by simp [stop]
  aligned := by simp [IsAligned]
  divides := by simp

theorem mono
    (h : Fits p size align l)
    (hsize : size ≤ size')
    (halign : align ∣ align') :
    Fits p size' align' l where
  disjoint := h.disjoint
  inside := fun x hx => Nat.le_trans (h.inside x hx) hsize
  aligned := h.aligned
  divides := fun hp x hx => Nat.dvd_trans (h.divides hp x hx) halign

/-- Moving leaves up to a multiple of their alignment keeps them aligned. -/
theorem aligned_map_shift
    (h : Fits p size align l)
    (hp : p ≠ .packed)
    {offset : Nat}
    (hoffset : align ∣ offset) :
    ∀ x ∈ l.map (shift offset), x.IsAligned := by
  intro x hx
  obtain ⟨y, hy, rfl⟩ := List.mem_map.1 hx
  have hdvd : y.align ∣ offset := Nat.dvd_trans (h.divides hp y hy) hoffset
  exact isAligned_shift hdvd (h.aligned hp y hy)

/-- Leaves put behind others at an aligned offset fit. -/
theorem append_shift
    (h : Fits p size align l)
    (h' : Fits p size' align' l')
    {offset whole : Nat}
    (hsize : size ≤ offset)
    (hoffset : p ≠ .packed → align' ∣ offset)
    (halign : align ∣ whole)
    (halign' : align' ∣ whole) :
    Fits p (offset + size') whole (l ++ l'.map (shift offset)) where
  disjoint := by
    refine List.pairwise_append.2 ⟨h.disjoint, ?_, ?_⟩
    · exact List.pairwise_map.2 (h'.disjoint.imp (disjoint_shift offset))
    · intro x hx y hy
      obtain ⟨z, hz, rfl⟩ := List.mem_map.1 hy
      have hx' := h.inside x hx
      exact Or.inl (Nat.le_trans (Nat.le_trans hx' hsize) (Nat.le_add_right _ _))
  inside := by
    intro x hx
    rcases List.mem_append.1 hx with hx | hx
    · exact Nat.le_trans (h.inside x hx) (Nat.le_trans hsize (Nat.le_add_right _ _))
    · obtain ⟨y, hy, rfl⟩ := List.mem_map.1 hx
      rw [stop_shift]
      exact Nat.add_le_add_left (h'.inside y hy) offset
  aligned := by
    intro hp x hx
    rcases List.mem_append.1 hx with hx | hx
    · exact h.aligned hp x hx
    · exact h'.aligned_map_shift hp (hoffset hp) x hx
  divides := by
    intro hp x hx
    rcases List.mem_append.1 hx with hx | hx
    · exact Nat.dvd_trans (h.divides hp x hx) halign
    · obtain ⟨y, hy, rfl⟩ := List.mem_map.1 hx
      exact Nat.dvd_trans (h'.divides hp y hy) halign'

/-- Copies fit when they stand far enough apart, at multiples of the alignment. -/
theorem copies
    (h : Fits p size align l)
    {stride : Nat}
    (hsize : size ≤ stride)
    (hstride : p ≠ .packed → align ∣ stride)
    (count : Nat) :
    Fits p (count * stride) align (Leaf.copies stride count l) := by
  induction count with
  | zero => exact nil
  | succ count ih =>
      have hoffset : p ≠ .packed → align ∣ count * stride :=
        fun hp => Nat.dvd_trans (hstride hp) (Nat.dvd_mul_left stride count)
      have happend :=
        ih.append_shift h (Nat.le_refl (count * stride)) hoffset (Nat.dvd_refl align)
          (Nat.dvd_refl align)
      rw [copies_succ, Nat.succ_mul]
      exact happend.mono (Nat.add_le_add_left hsize _) (Nat.dvd_refl align)

end Fits

end Leaf
end StageInterface
