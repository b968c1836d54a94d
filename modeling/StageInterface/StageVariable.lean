import StageInterface.Extent
import StageInterface.Lexeme
import StageInterface.VertexAttribute

/-!
# Stage variables

The values that pass between stages, addressed by location.  An input of the
first stage may depend on a vertex attribute: it is there only if the geometry
provides the attribute.
-/

namespace StageInterface

/-- What inputs and outputs share. -/
structure StageVariable where
  location : UInt32
  type : Lexeme
  name : Lexeme
  /-- Absent when the stage's default applies. -/
  interpolation : Lexeme
  extent : Extent
deriving DecidableEq, Inhabited

namespace StageVariable

def isComplete (v : StageVariable) : Bool := v.type.isPresent && v.name.isPresent

def isRuntime (v : StageVariable) : Bool := v.extent.isRuntime

/-- The interpolation qualifier with the blank behind it, if there is one. -/
def interpolationSource (v : StageVariable) : String :=
  match v.interpolation.present? with
  | some word => word.text ++ " "
  | none => ""

/-- The declaration of the variable, with the word for its direction. -/
def directedSource (v : StageVariable) (direction : String) : String :=
  "layout (location = " ++ toString v.location.toNat ++ ") " ++ v.interpolationSource ++
    direction ++ " " ++ v.type.text ++ " " ++ v.name.text ++ v.extent.suffix ++ ";\n"

end StageVariable

/-- A value received from the previous stage or from the geometry. -/
structure StageInput extends StageVariable where
  /-- The attribute that the geometry must provide, if any. -/
  required : Option VertexAttribute
deriving DecidableEq, Inhabited

namespace StageInput

/-- The input that receives a vertex attribute at its fixed location. -/
def ofAttribute (a : VertexAttribute) : StageInput :=
  ⟨⟨a.location, a.type, a.variableName, .absent, .single⟩, some a⟩

/-- The same input, depending on a vertex attribute. -/
def requiring (i : StageInput) (a : VertexAttribute) : StageInput := { i with required := some a }

def source (i : StageInput) : String := i.directedSource "in"

end StageInput

/-- A value passed to the next stage. -/
structure StageOutput extends StageVariable
deriving DecidableEq, Inhabited

namespace StageOutput

def source (o : StageOutput) : String := o.directedSource "out"

end StageOutput
end StageInterface
