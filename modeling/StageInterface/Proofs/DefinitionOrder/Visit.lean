import StageInterface.Proofs.DefinitionOrder.Trace

/-!
# Visits with their warnings

What one visit of a structure writes and what it notices.  A visit meets one of
three situations: the name of the structure is taken, and then the structure is
compared with the definition of that name; there is no room to follow it; or its
dependencies are visited first, and the name is looked up once more behind them.

**Results.**
* `visit_of_mem`, `visit_zero_of_not_mem`, `visit_succ_of_not_mem`: the three
  situations.
* `visit_succ_of_defined`: if the names of all that a structure uses are taken,
  its visit writes nothing but the structure.
-/

namespace StageInterface
namespace DefinitionOrder

/-- What is noticed when a structure is compared with the definition of its name. -/
def comparison
    (first s : Structure) : List OrderWarning :=
  if first = s then [] else [.conflict s.name]

theorem mem_comparison_iff
    {first s : Structure}
    {w : OrderWarning} :
    w ∈ comparison first s ↔ first ≠ s ∧ w = .conflict s.name := by
  unfold comparison
  split
  next h => simp [h]
  next h => simp [h]

/-- A structure whose name is taken is compared with the definition of that name. -/
theorem exists_isDefined_eq
    {done : List Structure}
    {s : Structure}
    (h : s.name ∈ done.map Structure.name) :
    ∃ first ∈ done, first.name = s.name ∧ isDefined done s = ⟨true, comparison first s⟩ := by
  obtain ⟨first, hfirst⟩ := Option.isSome_iff_exists.1 ((definition?_isSome_iff done s.name).2 h)
  have hname : first.name = s.name := by
    simpa using List.find?_some hfirst
  refine ⟨first, List.mem_of_find?_eq_some hfirst, hname, ?_⟩
  rw [isDefined, hfirst, comparison]
  by_cases hs : first = s
  · simp [hs, Noted.noteIf, bind, pure]
  · simp [hs, Noted.noteIf, bind, pure]

theorem isDefined_of_not_mem
    {done : List Structure}
    {s : Structure}
    (h : s.name ∉ done.map Structure.name) :
    isDefined done s = pure false := by
  have hnone : definition? done s.name = none := by
    rw [← Option.not_isSome_iff_eq_none, definition?_isSome_iff]
    exact h
  rw [isDefined, hnone]

section Situations

variable (standalone : List Structure)
variable (scope : Scope)
variable {done : List Structure}
variable {s : Structure}

/-- A structure whose name is taken is compared and not written, however much room there is. -/
theorem visit_of_mem
    (room : Nat)
    (h : s.name ∈ done.map Structure.name) :
    ∃ first ∈ done, first.name = s.name ∧
      visit standalone scope room done s = ⟨done, comparison first s⟩ := by
  obtain ⟨first, hfirst, hname, hdefined⟩ := exists_isDefined_eq h
  refine ⟨first, hfirst, hname, ?_⟩
  rw [visit.eq_def, hdefined]
  exact Noted.ext rfl (List.append_nil _)

/-- Without room a structure of a new name is left out. -/
theorem visit_zero_of_not_mem
    (h : s.name ∉ done.map Structure.name) :
    visit standalone scope 0 done s = ⟨done, [.tooDeep s.name]⟩ := by
  rw [visit, isDefined_of_not_mem h]
  rfl

/-- With room a structure of a new name is looked up once more behind its dependencies. -/
theorem visit_succ_of_not_mem
    (room : Nat)
    (h : s.name ∉ done.map Structure.name) :
    let behind := (dependencies standalone scope s).foldlM (visit standalone scope room) done
    (∃ first ∈ behind.value, first.name = s.name ∧
      visit standalone scope (room + 1) done s =
        ⟨behind.value, behind.notices ++ comparison first s⟩) ∨
    (s.name ∉ behind.value.map Structure.name ∧
      visit standalone scope (room + 1) done s = ⟨behind.value ++ [s], behind.notices⟩) := by
  intro behind
  have hvisit : visit standalone scope (room + 1) done s =
      behind >>= fun done => isDefined done s >>= fun defined =>
        if defined then pure done else pure (done ++ [s]) := by
    rw [visit, isDefined_of_not_mem h]
    rfl
  by_cases hbehind : s.name ∈ behind.value.map Structure.name
  · obtain ⟨first, hfirst, hname, hdefined⟩ := exists_isDefined_eq hbehind
    refine Or.inl ⟨first, hfirst, hname, hvisit.trans (Noted.ext ?_ ?_)⟩
    · rw [Noted.value_bind, hdefined]
      rfl
    · rw [Noted.notices_bind, hdefined]
      exact congrArg (behind.notices ++ ·) (List.append_nil _)
  · refine Or.inr ⟨hbehind, hvisit.trans (Noted.ext ?_ ?_)⟩
    · rw [Noted.value_bind, isDefined_of_not_mem hbehind]
      rfl
    · rw [Noted.notices_bind, isDefined_of_not_mem hbehind]
      exact List.append_nil _

end Situations

section Defined

variable (standalone : List Structure)
variable (scope : Scope)
variable {done : List Structure}

/-- Visits of structures whose names are all taken write nothing and go nowhere. -/
theorem foldlM_visit_of_defined
    (room : Nat)
    {ds : List Structure}
    (h : ∀ d ∈ ds, d.name ∈ done.map Structure.name) :
    (ds.foldlM (visit standalone scope room) done).value = done ∧
      ∀ n, .tooDeep n ∉ (ds.foldlM (visit standalone scope room) done).notices := by
  induction ds with
  | nil => exact ⟨rfl, fun n => List.not_mem_nil⟩
  | cons d ds ih =>
      obtain ⟨hvalue, hshallow⟩ := ih (fun d' hd' => h d' (List.mem_cons_of_mem d hd'))
      obtain ⟨first, -, -, hvisit⟩ :=
        visit_of_mem standalone scope room (h d List.mem_cons_self)
      rw [List.foldlM_cons, Noted.value_bind, Noted.notices_bind, hvisit]
      refine ⟨hvalue, ?_⟩
      intro n hn
      rcases List.mem_append.1 hn with hn | hn
      · exact absurd (mem_comparison_iff.1 hn).2 (by simp)
      · exact hshallow n hn

/-- If the names of all that a structure uses are taken, its visit writes nothing but the structure
itself, and that unless its name is taken. -/
theorem visit_succ_of_defined
    (room : Nat)
    {s : Structure}
    (h : ∀ d ∈ dependencies standalone scope s, d.name ∈ done.map Structure.name) :
    (visit standalone scope (room + 1) done s).value =
        (if s.name ∈ done.map Structure.name then done else done ++ [s]) ∧
      ∀ n, .tooDeep n ∉ (visit standalone scope (room + 1) done s).notices := by
  by_cases hs : s.name ∈ done.map Structure.name
  · obtain ⟨first, -, -, hvisit⟩ := visit_of_mem standalone scope (room + 1) hs
    rw [hvisit, if_pos hs]
    refine ⟨rfl, ?_⟩
    intro n hn
    exact absurd (mem_comparison_iff.1 hn).2 (by simp)
  · obtain ⟨hvalue, hshallow⟩ := foldlM_visit_of_defined standalone scope room h
    rcases visit_succ_of_not_mem standalone scope room hs with
      ⟨first, hfirst, hname, -⟩ | ⟨-, hvisit⟩
    · rw [hvalue] at hfirst
      exact absurd (hname ▸ List.mem_map_of_mem hfirst) hs
    · rw [hvisit, if_neg hs, hvalue]
      exact ⟨rfl, hshallow⟩

end Defined

end DefinitionOrder
end StageInterface
