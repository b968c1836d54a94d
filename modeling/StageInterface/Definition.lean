import StageInterface.Declaration

/-!
# Stage definitions

Everything that one shader stage declares, collected before its text is
generated.

**Results.**
* `admits_iff`: a declaration is taken in exactly when no declaration of its
  kind and name is there.
-/

namespace StageInterface

/-- A request to the compiler for a language extension. -/
structure Extension where
  name : String
  behavior : String
deriving DecidableEq, Inhabited

def Extension.directive (e : Extension) : String :=
  "#extension " ++ e.name ++ " : " ++ e.behavior

/-- How many declarations of each kind there are. -/
structure Census where
  structures : Nat
  stageInputs : Nat
  uniformBlocks : Nat
  storageBlocks : Nat
  stageOutputs : Nat
deriving DecidableEq, Inhabited

namespace Census

def ofList (l : List Declaration) : Census where
  structures := l.countP (fun d => d.kind = .struct)
  stageInputs := l.countP (fun d => d.kind = .stageInput)
  uniformBlocks := l.countP (fun d => d.kind = .uniformBlock)
  storageBlocks := l.countP (fun d => d.kind = .storageBlock)
  stageOutputs := l.countP (fun d => d.kind = .stageOutput)

def total (c : Census) : Nat :=
  c.structures + c.stageInputs + c.uniformBlocks + c.storageBlocks + c.stageOutputs

def line (kind : Kind) (count : Nat) : String := kind.label ++ " : " ++ toString count ++ "\n"

/-- The counts, one line for each kind. -/
def report (c : Census) : String :=
  "Shader declarations :\n" ++ line .struct c.structures ++ line .uniformBlock c.uniformBlocks ++
    line .storageBlock c.storageBlocks ++ line .stageInput c.stageInputs ++
    line .stageOutput c.stageOutputs

end Census

/-- What one shader stage declares. -/
structure Definition where
  stage : Stage
  name : String
  declarations : List Declaration
  extensions : List Extension
  /-- The statements of the main function, if it has been given. -/
  mainBody : Option String
deriving DecidableEq

/-- A declaration was not taken in, because one of its kind and name is there. -/
structure Redeclaration where
  kind : Kind
  name : Lexeme
  stage : Stage
  shader : String
deriving DecidableEq

def Redeclaration.message (r : Redeclaration) : String :=
  r.kind.label ++ " '" ++ r.name.text ++ "' is already declared in " ++ r.stage.label ++ " '" ++
    r.shader ++ "', ignoring"

namespace Definition

/-- The definition of a stage that declares nothing yet. -/
def ofStage (stage : Stage) (name : String) : Definition := ⟨stage, name, [], [], none⟩

/-- A declaration is taken in unless one of its kind and name is there. -/
def admits (f : Definition) (d : Declaration) : Bool :=
  f.declarations.all (fun d' => !(d'.kind = d.kind && d'.name = d.name))

/-- Takes in a declaration; the first of its kind and name stays. -/
def declare (f : Definition) (d : Declaration) : Noted Redeclaration Definition := do
  if f.admits d then
    pure { f with declarations := f.declarations ++ [d] }
  else
    Noted.note ⟨d.kind, d.name, f.stage, f.name⟩
    pure f

def declareAll (f : Definition) (l : List Declaration) : Noted Redeclaration Definition :=
  l.foldlM declare f

/-- Asks for a language extension, after those asked for before. -/
def addExtension (f : Definition) (e : Extension) : Definition :=
  { f with extensions := f.extensions ++ [e] }

def withMainBody (f : Definition) (body : String) : Definition :=
  { f with mainBody := some body }

def census (f : Definition) : Census := Census.ofList f.declarations

/-- A declaration is taken in exactly when none of its kind has its name. -/
theorem admits_iff {f : Definition} {d : Declaration} :
    f.admits d = true ↔ ∀ d' ∈ f.declarations, d'.kind = d.kind → d'.name ≠ d.name := by
  simp [admits, Decidable.imp_iff_not_or]

end Definition
end StageInterface
