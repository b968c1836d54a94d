import Mathlib.Data.List.Basic
import StageInterface.Block.Storage

/-!
# Arrays sized at run time come last

An array sized at run time may be the last member of a storage block, and
nothing else (`RuntimeLast`).  Whether a member may be added is judged before it
is added, from two positions and the first such array among the members so far.
That one array is enough because the members so far have no other.

**Results.**
* `Puts.exists_runtime_of_strayRuntime?`: what is refused is an array sized at
  run time that would stand in front of another member, whatever the members so
  far are.
* `Puts.strayRuntime?_eq_none_iff`: if the members so far have such an array at
  the end only, nothing is refused exactly when this stays so.
-/

namespace StageInterface

/-- A member sized at run time has no member behind it, so that there is at most one. -/
def RuntimeLast
    (l : List Member) : Prop :=
  ∀ (i : Nat) (m : Member), l[i]? = some m → m.isRuntime = true → i + 1 = l.length

theorem runtimeLast_iff_dropLast
    {l : List Member} :
    RuntimeLast l ↔ ∀ m ∈ l.dropLast, m.isRuntime = false := by
  constructor
  · intro h m hm
    obtain ⟨i, hi, rfl⟩ := List.mem_iff_getElem.1 hm
    rw [List.length_dropLast] at hi
    rw [List.getElem_dropLast, Bool.eq_false_iff]
    intro hruntime
    have hlast := h i l[i] (List.getElem?_eq_getElem (by omega)) hruntime
    omega
  · intro h i m hm hruntime
    obtain ⟨hi, rfl⟩ := List.getElem?_eq_some_iff.1 hm
    by_contra hne
    have hdrop : i < l.dropLast.length := by
      rw [List.length_dropLast]
      omega
    have hmem := List.getElem_mem hdrop
    rw [List.getElem_dropLast] at hmem
    rw [h _ hmem] at hruntime
    simp at hruntime

section FirstRuntime

variable {l : List Member}

theorem mem_of_runtimeSlot?
    {m : Member}
    {i : Nat}
    (h : runtimeSlot? l = some (m, i)) :
    l[i]? = some m ∧ m.isRuntime = true := by
  rw [runtimeSlot?] at h
  have hmem := List.mem_of_find?_eq_some h
  exact ⟨List.mem_zipIdx_iff_getElem?.1 hmem, by simpa using List.find?_some h⟩

theorem runtimeSlot?_eq_none_iff :
    runtimeSlot? l = none ↔ ∀ (i : Nat) (m : Member), l[i]? = some m → m.isRuntime = false := by
  simp only [runtimeSlot?, List.find?_eq_none, Bool.not_eq_true]
  constructor
  · intro h i m hm
    exact h (m, i) (List.mem_zipIdx_iff_getElem?.2 hm)
  · intro h e he
    exact h e.2 e.1 (List.mem_zipIdx_iff_getElem?.1 he)

/-- If an array sized at run time comes last, it is the first one too. -/
theorem RuntimeLast.runtimeSlot?_eq
    (hl : RuntimeLast l)
    {m : Member}
    {i : Nat}
    (hm : l[i]? = some m)
    (hruntime : m.isRuntime = true) :
    runtimeSlot? l = some (m, i) := by
  cases hfirst : runtimeSlot? l with
  | none =>
      rw [runtimeSlot?_eq_none_iff.1 hfirst i m hm] at hruntime
      simp at hruntime
  | some e =>
      obtain ⟨hm', hruntime'⟩ := mem_of_runtimeSlot? hfirst
      have hi : e.2 = i := by
        have hlast := hl i m hm hruntime
        have hlast' := hl e.2 e.1 hm' hruntime'
        omega
      rw [hi, hm, Option.some.injEq] at hm'
      rw [hm', ← hi]

/-- There is an array sized at run time exactly when the last member is one. -/
theorem RuntimeLast.runtimeSlot?_isSome_iff
    (hl : RuntimeLast l) :
    (runtimeSlot? l).isSome = true ↔ ∃ m, l.getLast? = some m ∧ m.isRuntime = true := by
  rw [Option.isSome_iff_exists]
  constructor
  · rintro ⟨⟨m, i⟩, h⟩
    obtain ⟨hm, hruntime⟩ := mem_of_runtimeSlot? h
    have hlast := hl i m hm hruntime
    refine ⟨m, ?_, hruntime⟩
    rw [List.getLast?_eq_getElem?, ← hm, ← hlast, Nat.add_sub_cancel]
  · rintro ⟨m, hm, hruntime⟩
    rw [List.getLast?_eq_getElem?] at hm
    exact ⟨_, hl.runtimeSlot?_eq hm hruntime⟩

end FirstRuntime

/-- The second members are the first ones with `m` put at a position; they end at `last`. -/
structure Puts
    (m : Member)
    (slot last : Nat)
    (l l' : List Member) : Prop where
  here : l'[slot]? = some m
  elsewhere : ∀ i, i ≠ slot → l'[i]? = l[i]?
  ends : last + 1 = l'.length

section Change

variable {l l' : List Member}
variable {slot last : Nat}
variable {m : Member}

/-- What is refused would stand in front of another member. -/
theorem Puts.exists_runtime_of_strayRuntime?
    (hput : Puts m slot last l l')
    {stray : Member}
    (h : strayRuntime? l slot last m = some stray) :
    ∃ i, l'[i]? = some stray ∧ stray.isRuntime = true ∧ i < last := by
  have hlast := hput.ends
  have hlt : ∀ i x, l'[i]? = some x → i ≤ last := by
    intro i x hx
    have hi := (List.getElem?_eq_some_iff.1 hx).1
    omega
  have hfirst : ∀ e, (runtimeSlot? l).filter (fun e => e.2 ≠ slot) = some e →
      l'[e.2]? = some e.1 ∧ e.1.isRuntime = true ∧ e.2 ≠ slot := by
    intro e he
    obtain ⟨he, hne⟩ := Option.filter_eq_some_iff.1 he
    obtain ⟨hmem, hruntime⟩ := mem_of_runtimeSlot? he
    have hne : e.2 ≠ slot := of_decide_eq_true hne
    exact ⟨by rw [hput.elsewhere e.2 hne, hmem], hruntime, hne⟩
  unfold strayRuntime? at h
  dsimp only at h
  split at h
  next hruntime =>
    split at h
    next heq =>
      obtain ⟨e, he, rfl⟩ := Option.map_eq_some_iff.1 h
      obtain ⟨hmem, hstray, hne⟩ := hfirst e he
      have hle := hlt e.2 e.1 hmem
      exact ⟨e.2, hmem, hstray, by omega⟩
    next hne =>
      cases h
      have hle := hlt slot m hput.here
      exact ⟨slot, hput.here, hruntime, by omega⟩
  next =>
    obtain ⟨e, he, rfl⟩ := Option.map_eq_some_iff.1 h
    obtain ⟨he, hne⟩ := Option.filter_eq_some_iff.1 he
    obtain ⟨hmem, hstray, -⟩ := hfirst e he
    have hle := hlt e.2 e.1 hmem
    have hne : e.2 ≠ last := of_decide_eq_true hne
    exact ⟨e.2, hmem, hstray, by omega⟩

/-- If nothing is refused, an array sized at run time comes last again. -/
theorem Puts.runtimeLast_of_strayRuntime?
    (hput : Puts m slot last l l')
    (hl : RuntimeLast l)
    (h : strayRuntime? l slot last m = none) :
    RuntimeLast l' := by
  intro i x hx hruntime
  unfold strayRuntime? at h
  dsimp only at h
  by_cases hi : i = slot
  · subst hi
    rw [hput.here, Option.some.injEq] at hx
    subst hx
    rw [if_pos hruntime] at h
    split at h
    next heq => rw [heq, hput.ends]
    next => simp at h
  · -- An array that stays is the first one before the change, so it has been looked at.
    rw [hput.elsewhere i hi] at hx
    have hfirst : (runtimeSlot? l).filter (fun e => e.2 ≠ slot) = some (x, i) := by
      rw [hl.runtimeSlot?_eq hx hruntime]
      simp [hi]
    rw [hfirst] at h
    split at h
    · split at h <;> simp at h
    · rw [Option.map_eq_none_iff, Option.filter_eq_none_iff] at h
      have hend : i = last := by simpa using h
      rw [hend, hput.ends]

/-- Nothing is refused exactly when an array sized at run time comes last again. -/
theorem Puts.strayRuntime?_eq_none_iff
    (hput : Puts m slot last l l')
    (hl : RuntimeLast l) :
    strayRuntime? l slot last m = none ↔ RuntimeLast l' := by
  constructor
  · exact hput.runtimeLast_of_strayRuntime? hl
  · intro hl'
    rw [Option.eq_none_iff_forall_ne_some]
    intro stray h
    obtain ⟨i, hstray, hruntime, hi⟩ := hput.exists_runtime_of_strayRuntime? h
    have hend := hl' i stray hstray hruntime
    have hlast := hput.ends
    omega

end Change

/-- A block judges a member at the position where its key puts it. -/
theorem StorageBlock.puts_slots
    (b : StorageBlock)
    (key : Lexeme)
    (m : Member) :
    Puts m (b.slots key).1 (b.slots key).2 b.members.values (b.members.insert key m).values := by
  rw [StorageBlock.slots, OrderedMap.values_insert, ← OrderedMap.length_values]
  cases hkey : b.members.indexOf? key with
  | some i =>
      have hi : i < b.members.values.length := by
        rw [OrderedMap.length_values]
        exact OrderedMap.indexOf?_lt hkey
      refine ⟨List.getElem?_set_self hi, ?_, ?_⟩
      · intro j hj
        exact List.getElem?_set_ne (Ne.symm hj)
      · dsimp only
        rw [List.length_set]
        omega
  | none =>
      refine ⟨List.getElem?_concat_length, ?_, ?_⟩
      · intro j hj
        rcases Nat.lt_or_gt_of_ne hj with hlt | hgt
        · exact List.getElem?_append_left hlt
        · have hend : (b.members.values ++ [m]).length ≤ j := by
            rw [List.length_append]
            exact hgt
          rw [List.getElem?_eq_none hend, List.getElem?_eq_none (Nat.le_of_lt hgt)]
      · rw [List.length_append]
        rfl

end StageInterface
