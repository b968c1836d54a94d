import StageInterface.Definition

/-!
# Interfaces

The declarations of a stage that are written into its text, grouped by kind.
A declaration is selected when it is complete, when a stage variable has a known
number of elements, and when the geometry provides the attribute that it
requires.  The definitions of the structures that blocks bring along are then
put in front of the standalone ones.

**Results.**
* `verdict_eq_kept_iff`: the three conditions of selection.
-/

namespace StageInterface

inductive Verdict
  | kept
  /-- Something that its kind needs is absent. -/
  | incomplete
  /-- It is a stage variable sized at run time. -/
  | runtimeSized
  /-- The geometry lacks the attribute that it requires. -/
  | lacksAttribute (a : VertexAttribute)
deriving DecidableEq

namespace Declaration

/-- Tells whether the declaration is a stage variable sized at run time. -/
def isRuntimeVariable : Declaration → Bool
  | stageInput i => i.isRuntime
  | stageOutput o => o.isRuntime
  | _ => false

/-- The attribute that the declaration requires, if any. -/
def required? : Declaration → Option VertexAttribute
  | stageInput i => i.required
  | _ => none

/-- The attribute that the geometry is asked for: only where the answer decides. -/
def asks? (d : Declaration) : Option VertexAttribute :=
  if d.isComplete && !d.isRuntimeVariable then d.required? else none

/-- What becomes of the declaration under a geometry. -/
def verdict (g : Geometry) (d : Declaration) : Verdict :=
  if !d.isComplete then .incomplete
  else if d.isRuntimeVariable then .runtimeSized
  else
    match d.required? with
    | none => .kept
    | some a => if g a then .kept else .lacksAttribute a

/-- A declaration is kept when it is complete, has a known number of elements and misses no
attribute. -/
theorem verdict_eq_kept_iff {g : Geometry} {d : Declaration} :
    d.verdict g = .kept ↔
      d.isComplete = true ∧ d.isRuntimeVariable = false ∧
        ∀ a, d.required? = some a → g a = true := by
  unfold verdict
  cases d.isComplete with
  | false => simp
  | true =>
    cases d.isRuntimeVariable with
    | true => simp
    | false =>
      cases d.required? with
      | none => simp
      | some a => cases g a <;> simp

end Declaration

/-- Declarations grouped by kind, each group in declaration order. -/
structure Interface where
  structures : List Structure
  stageInputs : List StageInput
  uniformBlocks : List UniformBlock
  storageBlocks : List StorageBlock
  stageOutputs : List StageOutput
deriving DecidableEq

namespace Interface

def ofList (l : List Declaration) : Interface where
  structures := l.filterMap Declaration.struct?
  stageInputs := l.filterMap Declaration.stageInput?
  uniformBlocks := l.filterMap Declaration.uniformBlock?
  storageBlocks := l.filterMap Declaration.storageBlock?
  stageOutputs := l.filterMap Declaration.stageOutput?

def isEmpty (i : Interface) : Bool :=
  i.structures.isEmpty && i.stageInputs.isEmpty && i.uniformBlocks.isEmpty &&
    i.storageBlocks.isEmpty && i.stageOutputs.isEmpty

/-- All structures with the scopes they are registered in: those of the uniform blocks, those of
the storage blocks, and the standalone ones. -/
def registered (i : Interface) : List (Scope × Structure) :=
  i.uniformBlocks.flatMap (fun b => DefinitionOrder.ofScope b.structures) ++
    i.storageBlocks.flatMap (fun b => DefinitionOrder.ofScope b.structures) ++
    i.structures.map (fun s => (.empty, s))

/-- The structure definitions of the interface, each after those it uses. -/
def orderedStructures (i : Interface) : Noted OrderWarning (List Structure) :=
  DefinitionOrder.arrange i.structures i.registered

/-- The interface with all its structure definitions in order. -/
def arranged (i : Interface) : Noted OrderWarning Interface :=
  (fun structures => { i with structures := structures }) <$> i.orderedStructures

end Interface

namespace Definition

def kept (f : Definition) (g : Geometry) : List Declaration :=
  f.declarations.filter (fun d => d.verdict g = .kept)

/-- The attributes that a geometry is asked for, in the order of the questions. -/
def asked (f : Definition) : List VertexAttribute := f.declarations.filterMap Declaration.asks?

def selected (f : Definition) (g : Geometry) : Interface := Interface.ofList (f.kept g)

end Definition
end StageInterface
