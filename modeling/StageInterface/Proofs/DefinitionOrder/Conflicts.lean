import StageInterface.Proofs.DefinitionOrder.Visit

/-!
# Conflicts of definitions

Which definitions of one name are compared while structures are put in order.
A visit may end early: the name is taken, or there is no room left.  In the first
case the structure is compared; in the second it is not, but whatever has been
registered is also visited by itself, with room.

**Results.**
* `reports_visit`, `reports_arrange`: what is noticed as a conflict is one.
* `mem_or_conflict_of_arrange`: every registered structure is written, or
  noticed as a conflict.
-/

namespace StageInterface
namespace DefinitionOrder

/-- Behind `done`, definitions are only added, and a conflict is noticed only where a known
structure differs from the definition of its name. -/
structure Reports
    (known : Structure → Prop)
    (done : List Structure)
    (x : Noted OrderWarning (List Structure)) : Prop where
  isPrefix : done <+: x.value
  conflict : ∀ n, .conflict n ∈ x.notices →
    ∃ s, known s ∧ s.name = n ∧ ∃ first ∈ x.value, first.name = n ∧ first ≠ s

namespace Reports

variable {known known' : Structure → Prop}
variable {done : List Structure}
variable {x : Noted OrderWarning (List Structure)}

theorem mono
    (h : Reports known done x)
    (himp : ∀ s, known s → known' s) :
    Reports known' done x where
  isPrefix := h.isPrefix
  conflict := by
    intro n hn
    obtain ⟨s, hs, hrest⟩ := h.conflict n hn
    exact ⟨s, himp s hs, hrest⟩

/-- Where no conflict is noticed there is nothing to check. -/
theorem of_silent
    (hgrow : done <+: x.value)
    (hsilent : ∀ n, .conflict n ∉ x.notices) :
    Reports known done x where
  isPrefix := hgrow
  conflict := fun n hn => absurd hn (hsilent n)

/-- What one computation notices stays true behind the next one. -/
theorem bind
    {f : List Structure → Noted OrderWarning (List Structure)}
    (hx : Reports known done x)
    (hf : Reports known x.value (f x.value)) :
    Reports known done (x >>= f) where
  isPrefix := hx.isPrefix.trans hf.isPrefix
  conflict := by
    intro n hn
    rw [Noted.notices_bind, List.mem_append] at hn
    rcases hn with hn | hn
    · obtain ⟨s, hs, hname, first, hfirst, hdiffer⟩ := hx.conflict n hn
      exact ⟨s, hs, hname, first, hf.isPrefix.subset hfirst, hdiffer⟩
    · exact hf.conflict n hn

theorem foldlM
    {β : Type}
    {f : List Structure → β → Noted OrderWarning (List Structure)}
    {l : List β}
    (hf : ∀ b ∈ l, ∀ done, Reports known done (f done b)) :
    ∀ done, Reports known done (l.foldlM f done) := by
  induction l with
  | nil =>
      intro done
      exact of_silent (List.prefix_refl done) (fun n => List.not_mem_nil)
  | cons b l ih =>
      intro done
      rw [List.foldlM_cons]
      exact (hf b List.mem_cons_self done).bind
        (ih (fun b' hb' => hf b' (List.mem_cons_of_mem b hb')) _)

/-- A comparison with a definition reports the structure if it differs. -/
theorem compare
    {first s : Structure}
    (hx : Reports known done x)
    (hs : known s)
    (hfirst : first ∈ x.value)
    (hname : first.name = s.name) :
    Reports known done ⟨x.value, x.notices ++ comparison first s⟩ where
  isPrefix := hx.isPrefix
  conflict := by
    intro n hn
    rcases List.mem_append.1 hn with hn | hn
    · exact hx.conflict n hn
    · obtain ⟨hdiffer, hn⟩ := mem_comparison_iff.1 hn
      rw [OrderWarning.conflict.injEq] at hn
      exact ⟨s, hs, hn.symm, first, hfirst, hname.trans hn.symm, hdiffer⟩

end Reports

section Search

variable (standalone : List Structure)

theorem reports_visit_of_mem
    (scope : Scope)
    (room : Nat)
    {done : List Structure}
    {s : Structure}
    (h : s.name ∈ done.map Structure.name) :
    Reports (fun s' => IsKnown standalone scope s (scope, s')) done
      (visit standalone scope room done s) := by
  obtain ⟨first, hfirst, hname, hvisit⟩ := visit_of_mem standalone scope room h
  have hdone : Reports (fun s' => IsKnown standalone scope s (scope, s')) done ⟨done, []⟩ :=
    Reports.of_silent (List.prefix_refl done) (fun n => List.not_mem_nil)
  rw [hvisit]
  exact hdone.compare ⟨rfl, Or.inl rfl⟩ hfirst hname

/-- A visit notices conflicts of structures that it knows. -/
theorem reports_visit
    (scope : Scope)
    (room : Nat)
    (done : List Structure)
    (s : Structure) :
    Reports (fun s' => IsKnown standalone scope s (scope, s')) done
      (visit standalone scope room done s) := by
  induction room generalizing done s with
  | zero =>
      by_cases h : s.name ∈ done.map Structure.name
      · exact reports_visit_of_mem standalone scope 0 h
      · rw [visit_zero_of_not_mem standalone scope h]
        exact Reports.of_silent (List.prefix_refl done) (by simp)
  | succ room ih =>
      by_cases h : s.name ∈ done.map Structure.name
      · exact reports_visit_of_mem standalone scope (room + 1) h
      · have hbehind : Reports (fun s' => IsKnown standalone scope s (scope, s')) done
            ((dependencies standalone scope s).foldlM (visit standalone scope room) done) := by
          refine Reports.foldlM ?_ done
          intro d hd done
          refine (ih done d).mono ?_
          rintro s' ⟨-, rfl | hlookup⟩
          · exact ⟨rfl, Or.inr (exists_lookup?_of_mem_dependencies hd)⟩
          · exact ⟨rfl, Or.inr hlookup⟩
        rcases visit_succ_of_not_mem standalone scope room h with
          ⟨first, hfirst, hname, hvisit⟩ | ⟨-, hvisit⟩
        · rw [hvisit]
          exact hbehind.compare ⟨rfl, Or.inl rfl⟩ hfirst hname
        · rw [hvisit]
          exact {
            isPrefix := hbehind.isPrefix.trans (List.prefix_append _ _)
            conflict := by
              intro n hn
              obtain ⟨s', hs', hname, first, hfirst, hdiffer⟩ := hbehind.conflict n hn
              exact ⟨s', hs', hname, first, List.mem_append_left _ hfirst, hdiffer⟩ }

/-- A run notices conflicts of structures that were registered or that a type name refers to. -/
theorem reports_arrange
    (registered : List (Scope × Structure)) :
    Reports (fun s => ∃ r ∈ registered, IsKnown standalone r.1 r.2 (r.1, s)) []
      (arrange standalone registered) := by
  refine Reports.foldlM ?_ []
  intro r hr done
  exact (reports_visit standalone r.1 Structure.nestingLimit done r.2).mono
    (fun s hs => ⟨r, hr, hs⟩)

/-- A visit with room left writes its structure, finds it written, or notices that it conflicts. -/
theorem mem_or_conflict_of_visit_succ
    (scope : Scope)
    (room : Nat)
    (done : List Structure)
    (s : Structure) :
    s ∈ (visit standalone scope (room + 1) done s).value ∨
      .conflict s.name ∈ (visit standalone scope (room + 1) done s).notices := by
  have hcompared : ∀ (x : Noted OrderWarning (List Structure)) (first : Structure),
      first ∈ x.value →
        s ∈ x.value ∨ .conflict s.name ∈ x.notices ++ comparison first s := by
    intro x first hfirst
    by_cases hs : first = s
    · exact Or.inl (hs ▸ hfirst)
    · exact Or.inr (List.mem_append_right _ (mem_comparison_iff.2 ⟨hs, rfl⟩))
  by_cases h : s.name ∈ done.map Structure.name
  · obtain ⟨first, hfirst, -, hvisit⟩ := visit_of_mem standalone scope (room + 1) h
    rw [hvisit]
    exact hcompared ⟨done, []⟩ first hfirst
  · rcases visit_succ_of_not_mem standalone scope room h with
      ⟨first, hfirst, -, hvisit⟩ | ⟨-, hvisit⟩
    · rw [hvisit]
      exact hcompared _ first hfirst
    · rw [hvisit]
      exact Or.inl (List.mem_append_right _ List.mem_cons_self)

/-- Every registered structure is written in a run, or the run notices that it conflicts. -/
theorem mem_or_conflict_of_arrange
    {registered : List (Scope × Structure)}
    {r : Scope × Structure}
    (hr : r ∈ registered) :
    r.2 ∈ (arrange standalone registered).value ∨
      .conflict r.2.name ∈ (arrange standalone registered).notices := by
  obtain ⟨l, l', rfl⟩ := List.append_of_mem hr
  rw [arrange, List.foldlM_append, Noted.value_bind, Noted.notices_bind, List.foldlM_cons,
    Noted.value_bind, Noted.notices_bind]
  generalize (l.foldlM (fun done r => visit standalone r.1 Structure.nestingLimit done r.2)
    []).value = done
  -- Later visits keep what the visit of `r` has written.
  have hlater : ∀ done', Reports (fun _ => True) done'
      (l'.foldlM (fun done r => visit standalone r.1 Structure.nestingLimit done r.2) done') :=
    Reports.foldlM (fun r' _ done' =>
      (reports_visit standalone r'.1 Structure.nestingLimit done' r'.2).mono
        (fun _ _ => trivial))
  rcases mem_or_conflict_of_visit_succ standalone r.1 15 done r.2 with hmem | hconflict
  · exact Or.inl ((hlater _).isPrefix.subset hmem)
  · exact Or.inr (List.mem_append_right _ (List.mem_append_left _ hconflict))

end Search

end DefinitionOrder
end StageInterface
