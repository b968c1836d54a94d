import Mathlib.Data.List.Basic
import StageInterface.BuiltinType
import StageInterface.Proofs.Text.Delimited

/-!
# Names of built-in types

Which texts name a built-in type.  Void, scalars, vectors and matrices have whole
names (`Spells`): their canonical ones, and for a square matrix also the one that
repeats the dimension.  Handles are known by the beginning of a name, so a text
that goes on behind such a beginning in any way is the name of a handle.

**Results.**
* `ofName?_eq_some_iff`: a name is read as a type that is no handle exactly when it
  spells the type.
* `ofName?_of_not_spells`, `isHandleName_iff`: any other name is that of a handle by
  its beginning, or that of a structure.
* `ofName?_spellings`: reading and writing names, for all texts and all types.
-/

namespace StageInterface
namespace BuiltinType

/-- How many components a vector has, and how many columns and rows a matrix. -/
def sides : List Nat := [2, 3, 4]

/-- The type has a name of its own. -/
def IsNamed : BuiltinType → Prop
  | void => True
  | scalar _ => True
  | vector _ components => components ∈ sides
  | matrix s columns rows =>
      s ∈ [Scalar.float, Scalar.double] ∧ columns ∈ sides ∧ rows ∈ sides
  | handle => False

/-- The name with both dimensions of a matrix, also if they are the same. -/
def longName : BuiltinType → String
  | matrix s columns rows => s.matrixStem ++ toString columns ++ "x" ++ toString rows
  | t => t.name

/-- The text is a whole name of the type. -/
def Spells
    (text : String)
    (t : BuiltinType) : Prop :=
  t.IsNamed ∧ (text = t.name ∨ text = t.longName)

section Reading

variable {text : String}
variable {t : BuiltinType}

theorem dimension?_eq_some_iff
    {l : List Char}
    {n : Nat} :
    dimension? l = some n ↔ n ∈ sides ∧ l = (toString n).toList := by
  constructor
  · intro h
    unfold dimension? at h
    split at h
    all_goals simp only [Option.some.injEq, reduceCtorEq] at h
    all_goals subst h; exact ⟨by decide, by decide⟩
  · rintro ⟨hn, rfl⟩
    revert n
    decide

/-- What is read as dimensions is one side twice, or two sides with a cross between them. -/
theorem sides_of_dimensions?
    {l : List Char}
    {columns rows : Nat}
    (h : dimensions? l = some (columns, rows)) :
    columns ∈ sides ∧ rows ∈ sides ∧
      (columns = rows ∧ l = (toString columns).toList ∨
        l = (toString columns ++ "x" ++ toString rows).toList) := by
  unfold dimensions? at h
  split at h
  next c r =>
    obtain ⟨columns', hc, h⟩ := Option.bind_eq_some_iff.1 h
    obtain ⟨rows', hr, h⟩ := Option.bind_eq_some_iff.1 h
    obtain ⟨rfl, rfl⟩ : columns' = columns ∧ rows' = rows := by simpa using h
    rw [dimension?_eq_some_iff] at hc hr
    refine ⟨hc.1, hr.1, Or.inr ?_⟩
    rw [String.toList_append, String.toList_append, ← hc.2, ← hr.2]
    rfl
  next =>
    obtain ⟨n, hn, h⟩ := Option.bind_eq_some_iff.1 h
    obtain ⟨rfl, rfl⟩ : n = columns ∧ n = rows := by simpa using h
    rw [dimension?_eq_some_iff] at hn
    exact ⟨hn.1, hn.1, Or.inl ⟨rfl, hn.2⟩⟩

/-- A text with a stem is the stem and what stands behind it. -/
theorem eq_append_of_afterStem?
    {stem rest : String}
    (h : afterStem? stem text = some rest.toList) :
    text = stem ++ rest := by
  have hlist := (List.isPrefixOf?_eq_some_iff_append_eq).1 h
  rw [← String.toList_inj, String.toList_append, hlist]

theorem spells_of_vectorOfName?
    (h : vectorOfName? text = some t) :
    Spells text t := by
  obtain ⟨s, -, h⟩ := List.exists_of_findSome?_eq_some h
  obtain ⟨rest, hrest, h⟩ := Option.bind_eq_some_iff.1 h
  obtain ⟨components, hcomponents, h⟩ := Option.bind_eq_some_iff.1 h
  obtain rfl : vector s components = t := by simpa using h
  obtain ⟨hside, rfl⟩ := dimension?_eq_some_iff.1 hcomponents
  exact ⟨hside, Or.inl (eq_append_of_afterStem? hrest)⟩

theorem spells_of_matrixOfName?
    (h : matrixOfName? text = some t) :
    Spells text t := by
  obtain ⟨s, hs, h⟩ := List.exists_of_findSome?_eq_some h
  obtain ⟨rest, hrest, h⟩ := Option.bind_eq_some_iff.1 h
  obtain ⟨⟨columns, rows⟩, hdimensions, h⟩ := Option.bind_eq_some_iff.1 h
  obtain rfl : matrix s columns rows = t := by simpa using h
  obtain ⟨hcolumns, hrows, ⟨rfl, rfl⟩ | rfl⟩ := sides_of_dimensions? hdimensions
  · refine ⟨⟨hs, hcolumns, hrows⟩, Or.inl ?_⟩
    rw [eq_append_of_afterStem? hrest, name, if_pos rfl, String.append_empty]
  · refine ⟨⟨hs, hcolumns, hrows⟩, Or.inr ?_⟩
    rw [eq_append_of_afterStem? hrest, longName]
    simp only [String.append_assoc]

theorem spells_of_scalarOfName?
    (h : (Scalar.ofName? text).map scalar = some t) :
    Spells text t := by
  obtain ⟨s, hs, rfl⟩ := Option.map_eq_some_iff.1 h
  have hname : s.name = text := by simpa using List.find?_some hs
  exact ⟨trivial, Or.inl hname.symm⟩

/-- What is read from a text: a type that the text spells, or else a handle. -/
theorem spells_or_handle_of_ofName?
    (h : ofName? text = some t) :
    Spells text t ∨ t = handle ∧ isHandleName text = true := by
  unfold ofName? at h
  split at h
  next hvoid =>
    rw [Option.some.injEq] at h
    subst h
    exact Or.inl ⟨trivial, Or.inl hvoid⟩
  next =>
    rcases Option.or_eq_some_iff.1 h with h | ⟨-, h⟩
    · exact Or.inl (spells_of_scalarOfName? h)
    rcases Option.or_eq_some_iff.1 h with h | ⟨-, h⟩
    · exact Or.inl (spells_of_vectorOfName? h)
    rcases Option.or_eq_some_iff.1 h with h | ⟨-, h⟩
    · exact Or.inl (spells_of_matrixOfName? h)
    split at h
    next hhandle => exact Or.inr ⟨(Option.some.inj h).symm, hhandle⟩
    next => simp at h

/-- The names of handles are read as something. -/
theorem isHandleName_eq_false_of_ofName?
    (h : ofName? text = none) :
    isHandleName text = false := by
  unfold ofName? at h
  split at h
  · simp at h
  · simp only [Option.or_eq_none_iff] at h
    obtain ⟨-, -, -, h⟩ := h
    split at h
    · simp at h
    next hhandle => exact Bool.eq_false_iff.2 hhandle

/-- Every whole name is read as its type. -/
theorem Spells.ofName?_eq
    (h : Spells text t) :
    ofName? text = some t := by
  have hscalars : ∀ s : Scalar, ofName? s.name = some (scalar s) := by
    intro s
    cases s <;> decide
  have hvectors : ∀ s ∈ Scalar.all, ∀ n ∈ sides,
      ofName? (vector s n).name = some (vector s n) := by
    decide +kernel
  have hmatrices : ∀ s ∈ [Scalar.float, Scalar.double], ∀ c ∈ sides, ∀ r ∈ sides,
      ofName? (matrix s c r).name = some (matrix s c r) ∧
        ofName? (matrix s c r).longName = some (matrix s c r) := by
    decide +kernel
  obtain ⟨hnamed, htext⟩ := h
  cases t with
  | void =>
      obtain rfl : text = "void" := htext.elim id id
      rfl
  | scalar s =>
      obtain rfl : text = s.name := htext.elim id id
      exact hscalars s
  | vector s n =>
      obtain rfl : text = (vector s n).name := htext.elim id id
      exact hvectors s (by cases s <;> decide) n hnamed
  | matrix s c r =>
      obtain ⟨hname, hlong⟩ := hmatrices s hnamed.1 c hnamed.2.1 r hnamed.2.2
      rcases htext with rfl | rfl
      · exact hname
      · exact hlong
  | handle => exact hnamed.elim

/-- A name is read as a type that is no handle exactly when it spells the type. -/
theorem ofName?_eq_some_iff
    (ht : t ≠ handle) :
    ofName? text = some t ↔ Spells text t := by
  refine ⟨?_, Spells.ofName?_eq⟩
  intro h
  rcases spells_or_handle_of_ofName? h with h | ⟨hhandle, -⟩
  · exact h
  · exact absurd hhandle ht

/-- A name that spells no type is read by its beginning only. -/
theorem ofName?_of_not_spells
    (h : ∀ t, ¬ Spells text t) :
    ofName? text = if isHandleName text then some handle else none := by
  cases hread : ofName? text with
  | none =>
      rw [isHandleName_eq_false_of_ofName? hread]
      rfl
  | some t =>
      rcases spells_or_handle_of_ofName? hread with hspells | ⟨rfl, hhandle⟩
      · exact absurd hspells (h t)
      · rw [hhandle]
        rfl

/-- A name spells no type exactly when it is read as a handle or not at all. -/
theorem forall_not_spells_iff :
    (∀ t, ¬ Spells text t) ↔ ofName? text = none ∨ ofName? text = some handle := by
  constructor
  · intro h
    rw [ofName?_of_not_spells h]
    split
    · exact Or.inr rfl
    · exact Or.inl rfl
  · intro h t hspells
    have hread := hspells.ofName?_eq
    rcases h with h | h
    · simp [h] at hread
    · rw [h, Option.some.injEq] at hread
      exact (hread ▸ hspells.1 : handle.IsNamed)

/-- The names of handles: that of atomic counters, and whatever begins with one of the stems. -/
theorem isHandleName_iff :
    isHandleName text = true ↔
      text = atomicCounter ∨ ∃ stem ∈ handleStems, Text.Begins stem text := by
  simp [isHandleName, Text.Begins, List.any_eq_true, List.isPrefixOf_iff_prefix]

/-- A whole name is the canonical one, or it has the dimension of a square matrix twice. -/
theorem Spells.name_eq_or
    (h : Spells text t) :
    t.name = text ∨
      ∃ s n, t = matrix s n n ∧ text = s.matrixStem ++ toString n ++ "x" ++ toString n ∧
        t.name = s.matrixStem ++ toString n := by
  obtain ⟨-, rfl | rfl⟩ := h
  · exact Or.inl rfl
  cases t with
  | matrix s columns rows =>
      by_cases hsquare : columns = rows
      · subst hsquare
        refine Or.inr ⟨s, columns, rfl, rfl, ?_⟩
        rw [name, if_pos rfl, String.append_empty]
      · refine Or.inl ?_
        rw [name, longName, if_neg hsquare]
        simp only [String.append_assoc]
  | void | scalar | vector | handle => exact Or.inl rfl

/-- The types that are read back from their canonical names are those that have one. -/
theorem ofName?_name_eq_some_iff :
    ofName? t.name = some t ↔ t.IsNamed := by
  constructor
  · intro h
    rcases spells_or_handle_of_ofName? h with hspells | ⟨rfl, hhandle⟩
    · exact hspells.1
    · exact absurd hhandle (by decide)
  · intro h
    exact Spells.ofName?_eq ⟨h, Or.inl rfl⟩

end Reading

/-- Void, scalars, vectors and matrices are read from their whole names and from nothing else, and
written back as they were read, but that a square matrix is written with one dimension.  Any other
name is that of a handle exactly if it is the one of atomic counters or begins with a stem of
handles, and is else read as nothing.  The types that reading finds behind their own canonical
names are those with two to four components, columns and rows and with matrices of floating-point
numbers. -/
theorem ofName?_spellings :
    (∀ text t, t ≠ handle → (ofName? text = some t ↔ Spells text t)) ∧
    (∀ text t, Spells text t →
      t.name = text ∨
        ∃ s n, t = matrix s n n ∧ text = s.matrixStem ++ toString n ++ "x" ++ toString n ∧
          t.name = s.matrixStem ++ toString n) ∧
    (∀ text, (∀ t, ¬ Spells text t) →
      (ofName? text = some handle ↔
        text = atomicCounter ∨ ∃ stem ∈ handleStems, Text.Begins stem text) ∧
      (ofName? text = none ↔
        ¬ (text = atomicCounter ∨ ∃ stem ∈ handleStems, Text.Begins stem text))) ∧
    ∀ t : BuiltinType, ofName? t.name = some t ↔ t.IsNamed := by
  refine ⟨?_, ?_, ?_, ?_⟩
  · intro text t ht
    exact ofName?_eq_some_iff ht
  · intro text t h
    exact h.name_eq_or
  · intro text h
    rw [← isHandleName_iff, ofName?_of_not_spells h]
    cases isHandleName text <;> simp
  · intro t
    exact ofName?_name_eq_some_iff

end BuiltinType
end StageInterface
