import StageInterface.Lexeme
import StageInterface.Stage

/-!
# Faults

Why a declaration cannot be put together, or a stage not be generated.
-/

namespace StageInterface

/-- The causes of refusal. -/
inductive Fault
  /-- A uniform block has a fixed size, so no member may be sized at run time. -/
  | runtimeArrayInUniformBlock (block member : Lexeme)
  /-- Only the last member of a storage block may be sized at run time. -/
  | runtimeArrayNotLast (block member : Lexeme)
  /-- A structure has a fixed size, so no member may be sized at run time. -/
  | runtimeArrayInStructure (owner member : Lexeme)
  /-- There is no array of uniform blocks that is sized at run time. -/
  | runtimeUniformBlockArray (block : Lexeme)
  /-- A member needs a type and a name. -/
  | incompleteMember (owner type name : Lexeme)
  /-- No declaration is left and there is no main body. -/
  | nothingToGenerate (stage : Stage) (name : String)
deriving DecidableEq

namespace Fault

def message : Fault → String
  | runtimeArrayInUniformBlock block member =>
      "Uniform block '" ++ block.text ++ "' cannot hold the unsized array '" ++ member.text ++ "'"
  | runtimeArrayNotLast block member =>
      "Unsized array '" ++ member.text ++ "' must be the last member of storage block '" ++
        block.text ++ "'"
  | runtimeArrayInStructure owner member =>
      "Structure '" ++ owner.text ++ "' cannot hold the unsized array '" ++ member.text ++ "'"
  | runtimeUniformBlockArray block =>
      "Uniform block '" ++ block.text ++ "' cannot be an unsized array"
  | incompleteMember owner type name =>
      "'" ++ owner.text ++ "' cannot hold a member without type or name (type '" ++ type.text ++
        "', name '" ++ name.text ++ "')"
  | nothingToGenerate stage name => stage.label ++ " '" ++ name ++ "' has nothing to generate"

end Fault
end StageInterface
