import Mathlib.Data.List.Nodup
import StageInterface.Interface

/-!
# Traces of the definition order

Putting structures in order is a bounded depth-first search that shares one
list of definitions between many scopes.  A trace is that list with the scope
under which each definition was written.

A search does nothing but write structures whose name is not taken yet
(`Growth`).  What holds of a trace because of that alone, whatever uses what
and however deep, follows by induction on the writes.

**Results.**
* `map_snd_trace`: without its scopes a trace is the arranged list.
* `growth_trace`: every write of a trace has a fresh name, and is of a structure
  that was registered or that a type name refers to.
* `mem_names_trace`: a trace defines the name of every registered structure.
-/

namespace StageInterface
namespace DefinitionOrder

/-- The names that a trace defines. -/
def names (run : List (Scope × Structure)) : List Lexeme :=
  run.map (fun e => e.2.name)

@[simp] theorem names_append
    (run run' : List (Scope × Structure)) :
    names (run ++ run') = names run ++ names run' :=
  List.map_append

@[simp] theorem names_singleton
    (e : Scope × Structure) :
    names [e] = [e.2.name] :=
  rfl

/-- A visit under a scope, following at most the given number of levels. -/
def visitTraced
    (standalone : List Structure)
    (scope : Scope) :
    Nat → List (Scope × Structure) → Structure → List (Scope × Structure)
  | 0, run, _ => run
  | room + 1, run, s =>
      if s.name ∈ names run then run
      else
        let run' :=
          (dependencies standalone scope s).foldl (visitTraced standalone scope room) run
        if s.name ∈ names run' then run' else run' ++ [(scope, s)]

/-- The visits of registered structures, each under the scope it was registered in. -/
def trace
    (standalone : List Structure)
    (registered : List (Scope × Structure)) :
    List (Scope × Structure) :=
  registered.foldl
    (fun run r => visitTraced standalone r.1 Structure.nestingLimit run r.2) []

section Forgetting

theorem definition?_isSome_iff
    (done : List Structure)
    (n : Lexeme) :
    (definition? done n).isSome = true ↔ n ∈ done.map Structure.name := by
  simp [definition?]

/-- A structure counts as defined exactly when its name is taken. -/
theorem value_isDefined
    (done : List Structure)
    (s : Structure) :
    (isDefined done s).value = true ↔ s.name ∈ done.map Structure.name := by
  rw [← definition?_isSome_iff]
  unfold isDefined
  cases definition? done s.name <;> simp

theorem names_eq_map_snd
    (run : List (Scope × Structure)) :
    names run = (run.map Prod.snd).map Structure.name := by
  simp [names]

/-- What a visit with room left does to the definitions. -/
theorem value_visit_succ
    (standalone : List Structure)
    (scope : Scope)
    (room : Nat)
    (done : List Structure)
    (s : Structure) :
    (visit standalone scope (room + 1) done s).value =
      if s.name ∈ done.map Structure.name then done
      else
        let done' :=
          (dependencies standalone scope s).foldl
            (fun d s' => (visit standalone scope room d s').value) done
        if s.name ∈ done'.map Structure.name then done' else done' ++ [s] := by
  rw [visit]
  by_cases h : s.name ∈ done.map Structure.name
  · have hd := (value_isDefined done s).2 h
    simp [hd, h]
  · have hd : (isDefined done s).value = false :=
      Bool.eq_false_iff.2 (fun hd => h ((value_isDefined done s).1 hd))
    simp only [Noted.value_bind, hd, Bool.false_eq_true, if_false, if_neg h,
      Noted.value_foldlM]
    split
    next h' => rw [Noted.value_pure, if_pos ((value_isDefined _ s).1 h')]
    next h' => rw [Noted.value_pure, if_neg (fun hn => h' ((value_isDefined _ s).2 hn))]

theorem value_visit_zero
    (standalone : List Structure)
    (scope : Scope)
    (done : List Structure)
    (s : Structure) :
    (visit standalone scope 0 done s).value = done := by
  rw [visit, Noted.value_bind]
  split <;> rfl

/-- Forgetting the scopes of a visit gives the visit. -/
theorem map_snd_visitTraced
    (standalone : List Structure)
    (scope : Scope)
    (room : Nat)
    (run : List (Scope × Structure))
    (s : Structure) :
    (visitTraced standalone scope room run s).map Prod.snd =
      (visit standalone scope room (run.map Prod.snd) s).value := by
  induction room generalizing run s with
  | zero => rw [visitTraced, value_visit_zero]
  | succ room ih =>
      have hfold :
          ∀ (ds : List Structure) (run : List (Scope × Structure)),
            (ds.foldl (visitTraced standalone scope room) run).map Prod.snd =
              ds.foldl (fun d s' => (visit standalone scope room d s').value)
                (run.map Prod.snd) := by
        intro ds
        induction ds with
        | nil =>
            intro run
            rfl
        | cons d ds ihds =>
            intro run
            rw [List.foldl_cons, List.foldl_cons, ihds, ih]
      rw [value_visit_succ, visitTraced]
      simp only [names_eq_map_snd, hfold]
      split
      next => rfl
      next =>
        split
        next => exact hfold _ run
        next => rw [List.map_append, hfold, List.map_singleton]

/-- Forgetting the scopes of a trace gives the arranged definitions. -/
theorem map_snd_trace
    (standalone : List Structure)
    (registered : List (Scope × Structure)) :
    (trace standalone registered).map Prod.snd = (arrange standalone registered).value := by
  rw [arrange, Noted.value_foldlM, trace]
  suffices h : ∀ run : List (Scope × Structure),
      (registered.foldl
          (fun run r => visitTraced standalone r.1 Structure.nestingLimit run r.2)
          run).map Prod.snd =
        registered.foldl
          (fun d r => (visit standalone r.1 Structure.nestingLimit d r.2).value)
          (run.map Prod.snd) from h []
  induction registered with
  | nil =>
      intro run
      rfl
  | cons r registered ih =>
      intro run
      rw [List.foldl_cons, List.foldl_cons, ih, map_snd_visitTraced]

end Forgetting

/-- A trace grows by writing structures of fresh names, each of an allowed kind. -/
inductive Growth
    (allowed : Scope × Structure → Prop)
    (run : List (Scope × Structure)) :
    List (Scope × Structure) → Prop
  | refl : Growth allowed run run
  | write
      {run' : List (Scope × Structure)}
      {e : Scope × Structure}
      (before : Growth allowed run run')
      (fresh : e.2.name ∉ names run')
      (ok : allowed e) :
      Growth allowed run (run' ++ [e])

namespace Growth

variable {allowed allowed' : Scope × Structure → Prop}
variable {run run' run'' : List (Scope × Structure)}

theorem mono
    (h : Growth allowed run run')
    (himp : ∀ e, allowed e → allowed' e) :
    Growth allowed' run run' := by
  induction h with
  | refl => exact Growth.refl
  | write before fresh ok ih => exact Growth.write ih fresh (himp _ ok)

theorem trans
    (h : Growth allowed run run')
    (h' : Growth allowed run' run'') :
    Growth allowed run run'' := by
  induction h' with
  | refl => exact h
  | write before fresh ok ih => exact Growth.write ih fresh ok

theorem foldl
    {β : Type}
    {f : List (Scope × Structure) → β → List (Scope × Structure)}
    {l : List β}
    (hf : ∀ b ∈ l, ∀ run, Growth allowed run (f run b)) :
    ∀ run, Growth allowed run (l.foldl f run) := by
  induction l with
  | nil =>
      intro run
      exact Growth.refl
  | cons b l ih =>
      intro run
      have hb := hf b List.mem_cons_self run
      have hl := ih (fun b' hb' => hf b' (List.mem_cons_of_mem b hb')) (f run b)
      exact hb.trans hl

theorem isPrefix
    (h : Growth allowed run run') :
    run <+: run' := by
  induction h with
  | refl => exact List.prefix_refl run
  | write before fresh ok ih => exact ih.trans (List.prefix_append _ _)

theorem names_subset
    (h : Growth allowed run run')
    {n : Lexeme}
    (hn : n ∈ names run) :
    n ∈ names run' :=
  List.map_subset _ h.isPrefix.subset hn

/-- Writing fresh names only, a trace defines no name twice. -/
theorem nodup_names
    (h : Growth allowed run run')
    (hrun : (names run).Nodup) :
    (names run').Nodup := by
  induction h with
  | refl => exact hrun
  | write before fresh ok ih =>
      rw [names_append, names_singleton]
      refine List.nodup_append.2 ⟨ih, List.nodup_singleton _, ?_⟩
      intro a ha b hb hab
      rw [List.mem_singleton] at hb
      exact fresh (hb ▸ hab ▸ ha)

/-- Whatever a trace has that it did not have before is allowed. -/
theorem mem_or_allowed
    (h : Growth allowed run run')
    {e : Scope × Structure}
    (he : e ∈ run') :
    e ∈ run ∨ allowed e := by
  induction h with
  | refl => exact Or.inl he
  | write before fresh ok ih =>
      rcases List.mem_append.1 he with hold | hnew
      · exact ih hold
      · rw [List.mem_singleton] at hnew
        exact Or.inr (hnew ▸ ok)

/-- Whatever a trace has that began empty is allowed. -/
theorem allowed_of_mem
    (h : Growth allowed [] run)
    {e : Scope × Structure}
    (he : e ∈ run) :
    allowed e :=
  (h.mem_or_allowed he).resolve_left List.not_mem_nil

end Growth

section Search

variable (standalone : List Structure)

/-- The entry is `s` itself under its scope, or a structure that some type name refers to there. -/
def IsKnown
    (scope : Scope)
    (s : Structure)
    (e : Scope × Structure) : Prop :=
  e.1 = scope ∧ (e.2 = s ∨ ∃ type, lookup? standalone scope type = some e.2)

theorem exists_lookup?_of_mem_dependencies
    {standalone : List Structure}
    {scope : Scope}
    {s d : Structure}
    (hd : d ∈ dependencies standalone scope s) :
    ∃ type, lookup? standalone scope type = some d := by
  obtain ⟨m, -, hm⟩ := List.mem_filterMap.1 hd
  by_cases hb : m.builtin?.isSome
  · simp [hb] at hm
  · exact ⟨m.type, by simpa [hb] using hm⟩

/-- A visit only writes structures that it knows. -/
theorem growth_visitTraced
    (scope : Scope)
    (room : Nat)
    (run : List (Scope × Structure))
    (s : Structure) :
    Growth (IsKnown standalone scope s) run (visitTraced standalone scope room run s) := by
  induction room generalizing run s with
  | zero => exact Growth.refl
  | succ room ih =>
      have hdeps :
          Growth (IsKnown standalone scope s) run
            ((dependencies standalone scope s).foldl
              (visitTraced standalone scope room) run) := by
        refine Growth.foldl ?_ run
        intro d hd run
        refine (ih run d).mono ?_
        rintro e ⟨hscope, rfl | hlookup⟩
        · exact ⟨hscope, Or.inr (exists_lookup?_of_mem_dependencies hd)⟩
        · exact ⟨hscope, Or.inr hlookup⟩
      rw [visitTraced]
      split
      · exact Growth.refl
      · dsimp only
        split
        next => exact hdeps
        next hfresh => exact hdeps.write hfresh ⟨rfl, Or.inl rfl⟩

/-- Every write of a trace belongs to a registered structure. -/
theorem growth_trace
    (registered : List (Scope × Structure)) :
    Growth (fun e => ∃ r ∈ registered, IsKnown standalone r.1 r.2 e) []
      (trace standalone registered) := by
  refine Growth.foldl ?_ []
  intro r hr run
  have hvisit := growth_visitTraced standalone r.1 Structure.nestingLimit run r.2
  exact hvisit.mono (fun e he => ⟨r, hr, he⟩)

/-- A visit with room left defines the name of its structure, however little room there is. -/
theorem mem_names_visitTraced_succ
    (scope : Scope)
    (room : Nat)
    (run : List (Scope × Structure))
    (s : Structure) :
    s.name ∈ names (visitTraced standalone scope (room + 1) run s) := by
  rw [visitTraced]
  split
  next h => exact h
  next =>
    dsimp only
    split
    next h => exact h
    next => simp

/-- A trace defines the name of every registered structure. -/
theorem mem_names_trace
    {registered : List (Scope × Structure)}
    {r : Scope × Structure}
    (hr : r ∈ registered) :
    r.2.name ∈ names (trace standalone registered) := by
  obtain ⟨l, l', rfl⟩ := List.append_of_mem hr
  rw [trace, List.foldl_append, List.foldl_cons]
  -- Later visits keep what the visit of `r` has defined.
  have hlater := Growth.foldl (l := l')
    (fun r' _ run => (growth_visitTraced standalone r'.1 Structure.nestingLimit run r'.2).mono
      (fun _ _ => trivial))
  exact (hlater _).names_subset (mem_names_visitTraced_succ standalone r.1 15 _ r.2)

end Search

end DefinitionOrder
end StageInterface
