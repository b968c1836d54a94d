import StageInterface.Proofs.DefinitionOrder.Visit
import StageInterface.Proofs.StructuresSection

/-!
# Registration order

When structures are left in the order in which they were registered.  Visiting
what a structure uses only moves definitions to the front that are not there yet;
where each structure is registered behind those that it uses, nothing moves.

**Results.**
* `value_arrange_of_dependenciesFirst`: such a list is arranged as it stands, but
  for later structures of a name that came before.
* `structuresSection_registrationOrder`: the same for the text, however deep
  structures nest.
-/

namespace StageInterface
namespace DefinitionOrder

/-- The structures of a list whose names do not occur before them, where some names came before
the list. -/
def firstOfEachName
    (before : List Lexeme) :
    List Structure → List Structure
  | [] => []
  | s :: l =>
      if s.name ∈ before then firstOfEachName (before ++ [s.name]) l
      else s :: firstOfEachName (before ++ [s.name]) l

section Registered

variable {standalone : List Structure}
variable {registered : List (Scope × Structure)}

/-- Dependencies come first when each entry finds its own among the entries before it. -/
theorem dependenciesFirst_iff_take :
    DependenciesFirst standalone registered ↔
      ∀ k, ∀ hk : k < registered.length,
        ∀ d ∈ dependencies standalone registered[k].1 registered[k].2,
          d.name ∈ names (registered.take k) := by
  constructor
  · intro h k hk d hd
    refine h (registered.take k) registered[k] (registered.drop (k + 1)) ?_ d
      ((mem_dependencies_iff standalone _).1 hd)
    rw [List.getElem_cons_drop, List.take_append_drop]
  · rintro h before e after rfl d hd
    have hk : before.length < (before ++ e :: after).length := by simp
    have hbefore := h before.length hk d
    rw [List.getElem_append_right (Nat.le_refl _)] at hbefore
    simp only [Nat.sub_self, List.getElem_cons_zero, List.take_left] at hbefore
    exact hbefore ((mem_dependencies_iff standalone _).2 hd)

instance (standalone : List Structure) (registered : List (Scope × Structure)) :
    Decidable (DependenciesFirst standalone registered) :=
  decidable_of_iff _ dependenciesFirst_iff_take.symm

/-- Behind entries whose names are defined, the rest is arranged as it stands. -/
theorem foldlM_visit_of_dependenciesFirst
    {before rest : List (Scope × Structure)}
    (h : DependenciesFirst standalone (before ++ rest))
    {done : List Structure}
    (hdone : ∀ n, n ∈ done.map Structure.name ↔ n ∈ names before) :
    let run := rest.foldlM (fun done r => visit standalone r.1 Structure.nestingLimit done r.2) done
    run.value = done ++ firstOfEachName (names before) (rest.map Prod.snd) ∧
      ∀ n, .tooDeep n ∉ run.notices := by
  induction rest generalizing before done with
  | nil =>
      intro run
      exact ⟨(List.append_nil done).symm, fun n => List.not_mem_nil⟩
  | cons r rest ih =>
      intro run
      have hdeps : ∀ d ∈ dependencies standalone r.1 r.2, d.name ∈ done.map Structure.name := by
        intro d hd
        rw [hdone]
        exact h before r rest rfl d ((mem_dependencies_iff standalone r.1).1 hd)
      obtain ⟨hvalue, hshallow⟩ :
          (visit standalone r.1 Structure.nestingLimit done r.2).value =
              (if r.2.name ∈ done.map Structure.name then done else done ++ [r.2]) ∧
            ∀ n, OrderWarning.tooDeep n ∉
              (visit standalone r.1 Structure.nestingLimit done r.2).notices :=
        visit_succ_of_defined standalone r.1 15 hdeps
      simp only [hdone] at hvalue
      -- Behind the visit the names defined are those before it and that of the structure.
      have hnext : ∀ n, n ∈ (visit standalone r.1 Structure.nestingLimit done r.2).value.map
          Structure.name ↔ n ∈ names (before ++ [r]) := by
        intro n
        rw [names_append, names_singleton, List.mem_append, List.mem_singleton, ← hdone, hvalue]
        split
        next hname =>
          refine (or_iff_left_of_imp ?_).symm
          rintro rfl
          exact (hdone _).2 hname
        next => simp
      have hrest : DependenciesFirst standalone ((before ++ [r]) ++ rest) := by
        rw [List.append_assoc]
        exact h
      obtain ⟨hrun, hquiet⟩ := ih hrest hnext
      have hcons : run = visit standalone r.1 Structure.nestingLimit done r.2 >>= fun done =>
          rest.foldlM (fun done r => visit standalone r.1 Structure.nestingLimit done r.2) done :=
        List.foldlM_cons
      rw [hcons, Noted.value_bind, Noted.notices_bind]
      constructor
      · rw [hrun, hvalue, names_append, names_singleton, List.map_cons, firstOfEachName]
        split
        · rfl
        · rw [List.append_assoc, List.singleton_append]
      · intro n hn
        rcases List.mem_append.1 hn with hn | hn
        · exact hshallow n hn
        · exact hquiet n hn

/-- Structures that are registered behind all that they use are arranged as they stand, the first of
each name, and none of them is too deep to follow. -/
theorem value_arrange_of_dependenciesFirst
    (h : DependenciesFirst standalone registered) :
    (arrange standalone registered).value = firstOfEachName [] (registered.map Prod.snd) ∧
      ∀ n, .tooDeep n ∉ (arrange standalone registered).notices := by
  have hrun : DependenciesFirst standalone ([] ++ registered) := h
  exact foldlM_visit_of_dependenciesFirst hrun (by simp [names])

end Registered

end DefinitionOrder

namespace Interface

/-- If every structure is registered behind structures of the names of all that it uses, the
structures section is the text of the structures in the order of registration, the first of each
name.  However deep structures nest, none of them is found too deep to follow. -/
theorem structuresSection_registrationOrder
    (i : Interface)
    (h : DefinitionOrder.DependenciesFirst i.structures i.registered) :
    let l := DefinitionOrder.firstOfEachName [] (i.registered.map Prod.snd)
    (∃ rest, i.arranged.value.sections =
      ⟨"Structures", String.join (l.map Structure.source)⟩ :: rest) ∧
    ∀ n, .tooDeep n ∉ i.arranged.notices := by
  intro l
  obtain ⟨hvalue, hshallow⟩ := DefinitionOrder.value_arrange_of_dependenciesFirst h
  have hstructures : i.arranged.value.structures = l := hvalue
  refine ⟨⟨i.arranged.value.sections.tail, ?_⟩, ?_⟩
  · rw [← hstructures]
    rfl
  · intro n
    rw [arranged, Noted.notices_map]
    exact hshallow n

section Tower

/-- A storey of the given name, on the one below if there is one. -/
def storey
    (name : String)
    (below? : Option String) : Structure where
  name := ⟨name⟩
  members :=
    match below? with
    | none => OrderedMap.empty.insert ⟨"ground"⟩ (.single ⟨"vec4"⟩ ⟨"ground"⟩)
    | some below => OrderedMap.empty.insert ⟨"below"⟩ (.single ⟨below⟩ ⟨"below"⟩)

/-- A block that registers storeys from the ground up, as many as are given. -/
def tower
    (height : Nat) : StorageBlock where
  set := 0
  binding := 0
  policy := .std430
  name := ⟨"Tower"⟩
  instanceName := .absent
  extent := .single
  members := .empty
  structures := OrderedMap.ofList ((List.range height).map fun k =>
    (⟨"Storey" ++ toString k⟩,
      storey ("Storey" ++ toString k)
        (if k = 0 then none else some ("Storey" ++ toString (k - 1)))))
  qualifiers := ⟨0⟩

/-- A tower that is higher than structures are followed, with another ground floor and a roof that
stand alone. -/
def highTower : Interface where
  structures := [storey "Storey0" (some "Basement"), storey "Roof" (some "Storey19")]
  stageInputs := []
  uniformBlocks := []
  storageBlocks := [tower 20]
  stageOutputs := []

/-- The tower is written from the ground up, with its own ground floor and with the roof on top. -/
theorem structuresSection_registrationOrder_highTower :
    DefinitionOrder.DependenciesFirst highTower.structures highTower.registered ∧
    (∃ r ∈ highTower.registered, ¬ DefinitionOrder.NestsWithin highTower.structures r.1 16 r.2) ∧
    ∃ rest, highTower.arranged.value.sections =
      ⟨"Structures", String.join
        (((tower 20).structures.values ++ [storey "Roof" (some "Storey19")]).map
          Structure.source)⟩ :: rest := by
  have hfirst : DefinitionOrder.DependenciesFirst highTower.structures highTower.registered := by
    decide +kernel
  obtain ⟨hsection, -⟩ := structuresSection_registrationOrder highTower hfirst
  have hl : DefinitionOrder.firstOfEachName [] (highTower.registered.map Prod.snd) =
      (tower 20).structures.values ++ [storey "Roof" (some "Storey19")] := by
    decide +kernel
  rw [hl] at hsection
  exact ⟨hfirst, by decide +kernel, hsection⟩

end Tower

end Interface
end StageInterface
