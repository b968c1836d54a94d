import Mathlib.Data.List.Basic
import StageInterface.Proofs.Selection

/-!
# Interleaving of kinds

Declarations of different kinds do not meet before the text is put together: a
declaration is shadowed by its own kind only, selection looks at one declaration
at a time, and each section takes the declarations of one kind.  The
declarations of each kind, in their order, therefore decide what is generated
(`SameByKind`).

**Results.**
* `filter_firstDeclarations_kind`: the first declarations of a kind are found
  among those of the kind.
* `Interface.ofList_congr`: an interface shows the declarations of each kind and
  not how kinds alternate.
* `Definition.generate_eq_of_sameByKind`: the same holds of what is generated.
-/

namespace StageInterface

/-- Two lists of declarations have the same declarations of each kind, in the same order. -/
def SameByKind
    (l l' : List Declaration) : Prop :=
  ∀ k : Kind, l.filter (fun d => d.kind = k) = l'.filter (fun d => d.kind = k)

theorem Declaration.isFirst_filter_kind_iff
    {before : List Declaration}
    {d : Declaration} :
    d.IsFirst (before.filter (fun d' => d'.kind = d.kind)) ↔ d.IsFirst before := by
  simp only [IsFirst, List.mem_filter, decide_eq_true_eq]
  constructor
  · intro h d' hd' hkind
    exact h d' ⟨hd', hkind⟩ hkind
  · intro h d' hd' hkind
    exact h d' hd'.1 hkind

/-- A declaration is shadowed by its own kind only. -/
theorem filter_firstDeclarations_kind
    (k : Kind)
    (before l : List Declaration) :
    (firstDeclarations before l).filter (fun d => d.kind = k) =
      firstDeclarations (before.filter (fun d => d.kind = k))
        (l.filter (fun d => d.kind = k)) := by
  induction l generalizing before with
  | nil => rfl
  | cons d l ih =>
      have hrest := ih (before ++ [d])
      rw [List.filter_append] at hrest
      by_cases hk : d.kind = k
      · subst hk
        have hd : [d].filter (fun d' => d'.kind = d.kind) = [d] := by simp
        rw [hd] at hrest
        rw [List.filter_cons_of_pos (by simp), firstDeclarations, firstDeclarations, ← hrest]
        simp only [Declaration.isFirst_filter_kind_iff]
        split
        · rw [List.filter_cons_of_pos (by simp)]
        · rfl
      · have hd : [d].filter (fun d' => d'.kind = k) = [] := by simp [hk]
        rw [hd, List.append_nil] at hrest
        rw [List.filter_cons_of_neg (by simpa using hk), firstDeclarations, ← hrest]
        split
        · rw [List.filter_cons_of_neg (by simpa using hk)]
        · rfl

namespace SameByKind

variable {l l' : List Declaration}

theorem firstDeclarations
    (h : SameByKind l l') :
    SameByKind (firstDeclarations [] l) (firstDeclarations [] l') := by
  intro k
  rw [filter_firstDeclarations_kind, filter_firstDeclarations_kind, h k]

theorem filter
    (h : SameByKind l l')
    (p : Declaration → Bool) :
    SameByKind (l.filter p) (l'.filter p) := by
  intro k
  rw [List.filter_comm, h k, List.filter_comm]

/-- What is taken from one kind is taken from the declarations of that kind. -/
theorem filterMap_eq
    (h : SameByKind l l')
    {α : Type}
    {take? : Declaration → Option α}
    (k : Kind)
    (htake : ∀ d, d.kind ≠ k → take? d = none) :
    l.filterMap take? = l'.filterMap take? := by
  have hfilter : ∀ l : List Declaration,
      (l.filter (fun d => d.kind = k)).filterMap take? = l.filterMap take? := by
    intro l
    rw [List.filterMap_filter]
    refine List.filterMap_congr ?_
    intro d _
    by_cases hd : d.kind = k
    · simp [hd]
    · simp [hd, htake d hd]
  rw [← hfilter l, h k, hfilter l']

end SameByKind

/-- An interface shows the declarations of each kind in their order, and not how kinds
alternate. -/
theorem Interface.ofList_congr
    {l l' : List Declaration}
    (h : SameByKind l l') :
    ofList l = ofList l' := by
  rw [ofList, ofList, Interface.mk.injEq]
  refine ⟨h.filterMap_eq .struct ?_, h.filterMap_eq .stageInput ?_,
    h.filterMap_eq .uniformBlock ?_, h.filterMap_eq .storageBlock ?_,
    h.filterMap_eq .stageOutput ?_⟩ <;>
  · intro d hd
    cases d <;> first | rfl | exact absurd rfl hd

namespace Definition

/-- From the same declarations of each kind the same is generated, whatever order the kinds come
in: the same text with the same bindings, or the same fault. -/
theorem generate_eq_of_sameByKind
    (stage : Stage)
    (name : String)
    (extensions : List Extension)
    (mainBody : Option String)
    {calls calls' : List Declaration}
    (h : SameByKind calls calls')
    (c : Config)
    (g : Geometry) :
    let blank : Definition := { Definition.ofStage stage name with extensions, mainBody }
    ((blank.declareAll calls).value.generate c g).value =
      ((blank.declareAll calls').value.generate c g).value := by
  intro blank
  have hadmits : ∀ d, blank.admits d = true ↔ d.IsFirst [] := by
    intro d
    rw [admits_iff]
    rfl
  have hselected : ∀ l, ((blank.declareAll l).value.selected g) =
      Interface.ofList ((firstDeclarations [] l).filter (fun d => d.verdict g = .kept)) := by
    intro l
    rw [value_declareAll hadmits]
    rfl
  have hinterface :
      (blank.declareAll calls).value.selected g = (blank.declareAll calls').value.selected g := by
    rw [hselected, hselected]
    exact Interface.ofList_congr (h.firstDeclarations.filter _)
  rw [value_generate, value_generate, hinterface, value_declareAll hadmits,
    value_declareAll hadmits]
  rfl

section Lamp

def lamp : Structure where
  name := ⟨"Lamp"⟩
  members := OrderedMap.empty.insert ⟨"color"⟩ (.single ⟨"vec4"⟩ ⟨"color"⟩)

/-- A block of one lamp that leaves the structure to stand alone. -/
def lampBlock : UniformBlock where
  set := 0
  binding := 0
  policy := .std140
  name := ⟨"Lamps"⟩
  instanceName := .absent
  extent := .single
  members := OrderedMap.empty.insert ⟨"lamp"⟩ (.single ⟨"Lamp"⟩ ⟨"lamp"⟩)
  structures := .empty

/-- An output that two declarations of different types compete for. -/
def lampOutput
    (type : String) : StageOutput where
  location := 0
  type := ⟨type⟩
  name := ⟨"shade"⟩
  interpolation := .absent
  extent := .single

/-- A structure may stand before or behind the block that uses it, and an output between or behind
both, while its first declaration stays the first. -/
theorem generate_eq_of_sameByKind_lamp :
    let calls : List Declaration :=
      [.struct lamp, .stageOutput (lampOutput "vec4"), .stageOutput (lampOutput "float"),
        .uniformBlock lampBlock]
    let calls' : List Declaration :=
      [.uniformBlock lampBlock, .stageOutput (lampOutput "vec4"), .struct lamp,
        .stageOutput (lampOutput "float")]
    let blank : Definition := Definition.ofStage .fragment "Lamp"
    SameByKind calls calls' ∧ calls ≠ calls' ∧
      ((blank.declareAll calls).value.generate default (fun _ => false)).value =
        ((blank.declareAll calls').value.generate default (fun _ => false)).value := by
  intro calls calls' blank
  have hcalls : SameByKind calls calls' := by
    intro k
    cases k <;> rfl
  exact ⟨hcalls, by simp [calls, calls'],
    generate_eq_of_sameByKind .fragment "Lamp" [] none hcalls default (fun _ => false)⟩

end Lamp

end Definition
end StageInterface
