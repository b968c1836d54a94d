import Mathlib.Data.List.Chain
import StageInterface.Proofs.DefinitionOrder.Trace

/-!
# Nesting of structures

A structure uses those that its member types refer to, and structures nest as
deep as chains of uses are long.

While nothing nests deeper than the search follows, the search writes a
structure only after all that it uses (`DependenciesFirst`).  The number of
levels that a visit may still follow bounds the chains that begin at the
visited structure; each step along a chain spends one of both.

**Results.**
* `nestsWithin_succ_iff`: one more level is one more step of use.
* `dependenciesFirst_visitTraced`: a visit that can follow everything keeps
  dependencies first, and defines the name of its structure.
* `dependenciesFirst_trace`: so does a whole run.
* `mem_names_before`: a structure that no other uses is written behind all that were
  registered before it.
-/

namespace StageInterface
namespace DefinitionOrder

section Uses

variable (standalone : List Structure)
variable (scope : Scope)

/-- Some member type of `s` that is not built in refers to `d`. -/
def Uses
    (s d : Structure) : Prop :=
  ∃ m ∈ s.members.values,
    m.builtin? = none ∧ lookup? standalone scope m.type = some d

theorem mem_dependencies_iff
    {s d : Structure} :
    d ∈ dependencies standalone scope s ↔ Uses standalone scope s d := by
  rw [dependencies, List.mem_filterMap]
  constructor
  · rintro ⟨m, hm, hd⟩
    cases hb : m.builtin? with
    | none => exact ⟨m, hm, hb, by simpa [hb] using hd⟩
    | some t => simp [hb] at hd
  · rintro ⟨m, hm, hb, hd⟩
    exact ⟨m, hm, by simpa [hb] using hd⟩

/-- No chain of uses that begins at `s` has more than `n` structures. -/
def NestsWithin
    (n : Nat)
    (s : Structure) : Prop :=
  ∀ l : List Structure,
    List.IsChain (Uses standalone scope) (s :: l) → (s :: l).length ≤ n

theorem not_nestsWithin_zero
    (s : Structure) :
    ¬ NestsWithin standalone scope 0 s := by
  intro h
  have hlen := h [] (List.IsChain.singleton s)
  simp at hlen

/-- A structure nests one level deeper than those it uses. -/
theorem nestsWithin_succ_iff
    {n : Nat}
    {s : Structure} :
    NestsWithin standalone scope (n + 1) s ↔
      ∀ d, Uses standalone scope s d → NestsWithin standalone scope n d := by
  constructor
  · intro h d hd l hl
    have hlen := h (d :: l) (List.isChain_cons_cons.2 ⟨hd, hl⟩)
    simpa using hlen
  · intro h l hl
    cases l with
    | nil => simp
    | cons d l =>
        obtain ⟨hd, hl⟩ := List.isChain_cons_cons.1 hl
        have hlen := h d hd l hl
        simpa using hlen

/-- Follows all chains of uses to see whether they end within `n` structures. -/
def nestsWithin :
    Nat → Structure → Bool
  | 0, _ => false
  | n + 1, s => (dependencies standalone scope s).all (nestsWithin n)

theorem nestsWithin_eq_true_iff
    {n : Nat}
    {s : Structure} :
    nestsWithin standalone scope n s = true ↔ NestsWithin standalone scope n s := by
  induction n generalizing s with
  | zero => simp [nestsWithin, not_nestsWithin_zero]
  | succ n ih =>
      rw [nestsWithin, nestsWithin_succ_iff, List.all_eq_true]
      constructor
      · intro h d hd
        exact ih.1 (h d ((mem_dependencies_iff standalone scope).2 hd))
      · intro h d hd
        exact ih.2 (h d ((mem_dependencies_iff standalone scope).1 hd))

instance (n : Nat) (s : Structure) : Decidable (NestsWithin standalone scope n s) :=
  decidable_of_iff _ (nestsWithin_eq_true_iff standalone scope)

end Uses

theorem NestsWithin.mono
    {standalone : List Structure}
    {scope : Scope}
    {n n' : Nat}
    {s : Structure}
    (h : NestsWithin standalone scope n s)
    (hle : n ≤ n') :
    NestsWithin standalone scope n' s :=
  fun l hl => (h l hl).trans hle

section DependenciesFirst

variable {standalone : List Structure}

/-- Every structure stands behind definitions of the names of all that it uses in its scope. -/
def DependenciesFirst
    (standalone : List Structure)
    (run : List (Scope × Structure)) : Prop :=
  ∀ before e after, run = before ++ e :: after →
    ∀ d, Uses standalone e.1 e.2 d → d.name ∈ names before

theorem dependenciesFirst_nil :
    DependenciesFirst standalone [] := by
  intro before e after h
  simp at h

/-- A structure may be written once all that it uses has been defined. -/
theorem DependenciesFirst.write
    {run : List (Scope × Structure)}
    {e : Scope × Structure}
    (h : DependenciesFirst standalone run)
    (he : ∀ d, Uses standalone e.1 e.2 d → d.name ∈ names run) :
    DependenciesFirst standalone (run ++ [e]) := by
  intro before e' after hsplit d hd
  rcases List.append_eq_append_iff.1 hsplit with ⟨rest, hbefore, hrest⟩ | ⟨rest, hrun, hrest⟩
  · cases rest with
    | nil =>
        rw [List.nil_append, List.cons.injEq] at hrest
        rw [List.append_nil] at hbefore
        rw [hbefore]
        exact he d (hrest.1 ▸ hd)
    | cons e'' rest => simp at hrest
  · cases rest with
    | nil =>
        rw [List.nil_append, List.cons.injEq] at hrest
        rw [List.append_nil] at hrun
        rw [← hrun]
        exact he d (hrest.1 ▸ hd)
    | cons e'' rest =>
        rw [List.cons_append, List.cons.injEq] at hrest
        rw [← hrest.1] at hrun
        exact h before e' rest hrun d hd

/-- Visiting structures one after the other keeps dependencies first if each visit does. -/
theorem dependenciesFirst_foldl
    {f : List (Scope × Structure) → Structure → List (Scope × Structure)}
    {ds : List Structure}
    (hgrow : ∀ run d, Growth (fun _ => True) run (f run d))
    (hf : ∀ d ∈ ds, ∀ run, DependenciesFirst standalone run →
      DependenciesFirst standalone (f run d) ∧ d.name ∈ names (f run d)) :
    ∀ run, DependenciesFirst standalone run →
      DependenciesFirst standalone (ds.foldl f run) ∧
        ∀ d ∈ ds, d.name ∈ names (ds.foldl f run) := by
  induction ds with
  | nil =>
      intro run hrun
      exact ⟨hrun, by simp⟩
  | cons d ds ih =>
      intro run hrun
      obtain ⟨hd, hname⟩ := hf d List.mem_cons_self run hrun
      obtain ⟨hds, hnames⟩ :=
        ih (fun d' hd' => hf d' (List.mem_cons_of_mem d hd')) (f run d) hd
      refine ⟨hds, ?_⟩
      intro d' hd'
      rcases List.mem_cons.1 hd' with rfl | hd'
      · have hgrown := Growth.foldl (fun b _ run => hgrow run b) (l := ds) (f run d')
        exact hgrown.names_subset hname
      · exact hnames d' hd'

/-- A visit that can follow every chain of uses keeps dependencies first, and defines the name of
its structure. -/
theorem dependenciesFirst_visitTraced
    {scope : Scope}
    {room : Nat}
    {run : List (Scope × Structure)}
    {s : Structure}
    (hs : NestsWithin standalone scope room s)
    (hrun : DependenciesFirst standalone run) :
    DependenciesFirst standalone (visitTraced standalone scope room run s) ∧
      s.name ∈ names (visitTraced standalone scope room run s) := by
  induction room generalizing run s with
  | zero => exact absurd hs (not_nestsWithin_zero standalone scope s)
  | succ room ih =>
      refine ⟨?_, mem_names_visitTraced_succ standalone scope room run s⟩
      have hgrow : ∀ run d,
          Growth (fun _ => True) run (visitTraced standalone scope room run d) :=
        fun run d =>
          (growth_visitTraced standalone scope room run d).mono (fun _ _ => trivial)
      obtain ⟨hfirst, hnames⟩ :=
        dependenciesFirst_foldl hgrow
          (fun d hd run hrun =>
            ih ((nestsWithin_succ_iff standalone scope).1 hs d
              ((mem_dependencies_iff standalone scope).1 hd)) hrun)
          run hrun
      rw [visitTraced]
      split
      · exact hrun
      · dsimp only
        split
        · exact hfirst
        · refine hfirst.write ?_
          intro d hd
          exact hnames d ((mem_dependencies_iff standalone scope).2 hd)

/-- A run over structures that nest within the limit keeps dependencies first. -/
theorem dependenciesFirst_trace
    {registered : List (Scope × Structure)}
    (h : ∀ r ∈ registered, NestsWithin standalone r.1 Structure.nestingLimit r.2) :
    DependenciesFirst standalone (trace standalone registered) := by
  rw [trace]
  suffices hrun : ∀ run, DependenciesFirst standalone run →
      DependenciesFirst standalone
        (registered.foldl
          (fun run r => visitTraced standalone r.1 Structure.nestingLimit run r.2) run) from
    hrun [] dependenciesFirst_nil
  induction registered with
  | nil =>
      intro run hrun
      exact hrun
  | cons r registered ih =>
      intro run hrun
      have hr := (dependenciesFirst_visitTraced (h r List.mem_cons_self) hrun).1
      exact ih (fun r' hr' => h r' (List.mem_cons_of_mem r hr')) _ hr

end DependenciesFirst

section Unused

variable {standalone : List Structure}

/-- If a property passes from structures to what they use, visits of structures that have it write
structures that have it. -/
theorem growth_visitTraced_of_closed
    {motive : Structure → Prop}
    {scope : Scope}
    (hclosed : ∀ s d, motive s → Uses standalone scope s d → motive d)
    (room : Nat)
    (run : List (Scope × Structure))
    {s : Structure}
    (hs : motive s) :
    Growth (fun e => motive e.2) run (visitTraced standalone scope room run s) := by
  induction room generalizing run s with
  | zero => exact Growth.refl
  | succ room ih =>
      have hdeps : Growth (fun e => motive e.2) run
          ((dependencies standalone scope s).foldl (visitTraced standalone scope room) run) := by
        refine Growth.foldl ?_ run
        intro d hd run
        exact ih run (hclosed s d hs ((mem_dependencies_iff standalone scope).1 hd))
      rw [visitTraced]
      split
      · exact Growth.refl
      · dsimp only
        split
        next => exact hdeps
        next hfresh => exact hdeps.write hfresh hs

/-- A structure that is not registered and that no other uses is not written. -/
theorem not_mem_trace
    {registered : List (Scope × Structure)}
    {s : Structure}
    (hs : ∀ r ∈ registered, r.2 ≠ s)
    (hunused : ∀ r ∈ registered, ∀ t, ¬ Uses standalone r.1 t s) :
    ∀ e ∈ trace standalone registered, e.2 ≠ s := by
  have hgrowth : Growth (fun e => e.2 ≠ s) [] (trace standalone registered) := by
    refine Growth.foldl ?_ []
    intro r hr run
    refine growth_visitTraced_of_closed (motive := (· ≠ s)) ?_ _ run (hs r hr)
    rintro t d - huses rfl
    exact hunused r hr t huses
  exact fun e he => hgrowth.allowed_of_mem he

/-- What a list begins with stands before an element that it does not contain. -/
theorem isPrefix_of_not_mem
    {l before after : List Structure}
    {s : Structure}
    (h : l <+: before ++ s :: after)
    (hs : s ∉ l) :
    l <+: before := by
  obtain ⟨rest, hrest⟩ := h
  rcases List.append_eq_append_iff.1 hrest with ⟨gap, rfl, -⟩ | ⟨gap, rfl, hgap⟩
  · exact List.prefix_append l gap
  · cases gap with
    | nil => exact ⟨[], by simp⟩
    | cons s' gap =>
        rw [List.cons_append, List.cons.injEq] at hgap
        rw [hgap.1] at hs
        simp at hs

/-- A structure that no other uses is written behind definitions of the names of all that were
registered before it. -/
theorem mem_names_before
    {registered registered' : List (Scope × Structure)}
    {s : Structure}
    (hs : ∀ r ∈ registered, r.2 ≠ s)
    (hunused : ∀ r ∈ registered, ∀ t, ¬ Uses standalone r.1 t s)
    {before after : List Structure}
    (h : (trace standalone (registered ++ registered')).map Prod.snd = before ++ s :: after) :
    ∀ r ∈ registered, r.2.name ∈ before.map Structure.name := by
  have hlater := Growth.foldl (l := registered')
    (fun r _ run =>
      (growth_visitTraced standalone r.1 Structure.nestingLimit run r.2).mono
        (fun _ _ => trivial))
  have hgrow : (trace standalone registered).map Prod.snd <+: before ++ s :: after := by
    rw [← h]
    refine List.IsPrefix.map Prod.snd ?_
    rw [trace, trace, List.foldl_append]
    exact (hlater _).isPrefix
  have hfresh : s ∉ (trace standalone registered).map Prod.snd := by
    intro hmem
    obtain ⟨e, he, heq⟩ := List.mem_map.1 hmem
    exact not_mem_trace hs hunused e he heq
  intro r hr
  have hname := mem_names_trace standalone hr
  rw [names_eq_map_snd] at hname
  exact List.map_subset _ (isPrefix_of_not_mem hgrow hfresh).subset hname

end Unused

end DefinitionOrder
end StageInterface
