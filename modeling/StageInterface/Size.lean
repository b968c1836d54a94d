/-!
# Byte sizes

Sizes, alignments and offsets are natural numbers capped at the largest 64-bit
number.  Every operation computes the exact number first and caps it last, so a
size is either exact or the cap itself.

**Results.**
* `val_add`, `val_times`: an operation caps the exact result.
* `le_roundUp`: rounding up never goes down.
-/

namespace StageInterface

/-- A byte count of at most `2 ^ 64 - 1`. -/
structure Size where
  val : Nat
  val_le : val ≤ 18446744073709551615
deriving DecidableEq, Repr

namespace Size

def limit : Nat := 18446744073709551615

/-- The exact number, or the cap when the number is above it. -/
def ofNat (n : Nat) : Size := ⟨min n limit, Nat.min_le_right n limit⟩

instance (n : Nat) : OfNat Size n := ⟨ofNat n⟩

instance : Inhabited Size := ⟨0⟩

instance : Add Size := ⟨fun a b => ofNat (a.val + b.val)⟩

instance : LE Size := ⟨fun a b => a.val ≤ b.val⟩

instance : DecidableLE Size := fun a b => inferInstanceAs (Decidable (a.val ≤ b.val))

instance : Max Size := ⟨fun a b => if a.val ≤ b.val then b else a⟩

def times (a : Size) (n : Nat) : Size := ofNat (a.val * n)

/-- The least multiple of `align` that is not below `n`; an alignment of zero asks for nothing. -/
def leastMultiple (n align : Nat) : Nat :=
  if align = 0 then n else (n + align - 1) / align * align

/-- Rounds a size up to a multiple of an alignment. -/
def roundUp (a align : Size) : Size := ofNat (leastMultiple a.val align.val)

theorem ext {a b : Size} (h : a.val = b.val) : a = b := by
  cases a
  cases b
  cases h
  rfl

theorem val_ofNat (n : Nat) : (ofNat n).val = min n limit := rfl

@[simp] theorem ofNat_val (a : Size) : ofNat a.val = a :=
  ext (Nat.min_eq_left a.val_le)

theorem val_add (a b : Size) : (a + b).val = min (a.val + b.val) limit := rfl

theorem val_times (a : Size) (n : Nat) : (a.times n).val = min (a.val * n) limit := rfl

theorem val_roundUp (a align : Size) :
    (a.roundUp align).val = min (leastMultiple a.val align.val) limit := rfl

theorem val_max (a b : Size) : (max a b).val = max a.val b.val := by
  show (if a.val ≤ b.val then b else a).val = max a.val b.val
  split
  next h => rw [Nat.max_eq_right h]
  next h => rw [Nat.max_eq_left (Nat.le_of_not_le h)]

theorem le_iff {a b : Size} : a ≤ b ↔ a.val ≤ b.val := Iff.rfl

theorem val_mono_ofNat {m n : Nat} (h : m ≤ n) : ofNat m ≤ ofNat n := by
  rw [le_iff, val_ofNat, val_ofNat]
  omega

theorem le_leastMultiple (n align : Nat) : n ≤ leastMultiple n align := by
  unfold leastMultiple
  split
  · exact Nat.le_refl n
  next h =>
    have hdiv := Nat.div_add_mod (n + align - 1) align
    have hmod := Nat.mod_lt (n + align - 1) (Nat.pos_of_ne_zero h)
    rw [Nat.mul_comm]
    omega

/-- The least multiple is a multiple, unless nothing is asked for. -/
theorem dvd_leastMultiple {align : Nat} (n : Nat) (h : align ≠ 0) :
    align ∣ leastMultiple n align := by
  rw [leastMultiple, if_neg h]
  exact Nat.dvd_mul_left align _

/-- No smaller multiple reaches the number. -/
theorem leastMultiple_le {n align m : Nat} (hdvd : align ∣ m) (hn : n ≤ m) :
    leastMultiple n align ≤ m := by
  unfold leastMultiple
  split
  · exact hn
  next h =>
    obtain ⟨k, rfl⟩ := hdvd
    have hpos := Nat.pos_of_ne_zero h
    rw [Nat.mul_comm align k] at hn ⊢
    refine Nat.mul_le_mul_right align ?_
    refine Nat.le_of_lt_succ (Nat.div_lt_of_lt_mul ?_)
    rw [Nat.mul_comm, Nat.succ_mul]
    omega

/-- Rounding up never goes down. -/
theorem le_roundUp (a align : Size) : a ≤ a.roundUp align := by
  rw [le_iff, val_roundUp]
  have h := le_leastMultiple a.val align.val
  have h' := a.val_le
  simp only [limit]
  omega

end Size
end StageInterface
