import StageInterface.Event
import StageInterface.Rendering

/-!
# Generation

From a definition to the text of its stage: the declarations that the geometry
supports are selected, structure definitions are put in order, and the text is
rendered.  The same definition, settings and geometry always give the same text.
-/

namespace StageInterface

/-- The event of a declaration that is not kept. -/
def Declaration.skipEvent? (g : Geometry) (shader : String) (d : Declaration) : Option Event :=
  match d.verdict g, d with
  | .kept, _ => none
  | .incomplete, d => some (.skippedIncomplete d.kind d.name shader)
  | .runtimeSized, .stageOutput o => some (.skippedRuntimeOutput o.name)
  | .runtimeSized, d => some (.skippedRuntimeInput d.name)
  | .lacksAttribute a, d => some (.skippedForAttribute d.name a)

namespace Definition

/-- Selects declarations, and notes those that are not kept. -/
def select (f : Definition) (g : Geometry) : Noted Event Interface :=
  ⟨f.selected g, f.declarations.filterMap (Declaration.skipEvent? g f.name)⟩

/-- Puts the selected interface into text and sums up its blocks. -/
def assemble (f : Definition) (c : Config) (i : Interface) : Noted Event StageSource := do
  Noted.note (.ordering f.name)
  let arranged ← i.arranged.relabel .order
  Noted.note (.emitting f.name)
  let code := f.render c arranged
  let uniformBlocks ← i.uniformBlocks.mapM (fun b => b.summary.relabel .layout)
  let storageBlocks ← i.storageBlocks.mapM (fun b => b.summary.relabel .layout)
  let source : StageSource := ⟨f.stage, f.name, code, uniformBlocks, storageBlocks⟩
  Noted.note (.generated source)
  pure source

/-- Generates the text of the stage for a geometry. -/
def generate (f : Definition) (c : Config) (g : Geometry) :
    Noted Event (Except Fault StageSource) := do
  Noted.note (.generating f.stage f.name)
  Noted.note (.counted f.census)
  let i ← f.select g
  if i.isEmpty && f.mainBody.isNone then
    pure (.error (.nothingToGenerate f.stage f.name))
  else
    Except.ok <$> f.assemble c i

end Definition
end StageInterface
