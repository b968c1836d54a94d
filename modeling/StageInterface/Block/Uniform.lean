import StageInterface.Block

/-!
# Uniform blocks

A uniform block has a fixed size: neither the block nor any of its members is
sized at run time.
-/

namespace StageInterface

/-- A `uniform` block. -/
structure UniformBlock extends Block
deriving DecidableEq, Inhabited

namespace UniformBlock

/-- The uniform block of a header, without members yet. -/
def ofHeader (h : BlockHeader) : Except Fault UniformBlock :=
  if h.extent.isRuntime then .error (.runtimeUniformBlockArray h.name)
  else .ok ⟨Block.ofHeader h⟩

/-- Inserts a member or overwrites the one under its key. -/
def addMember (b : UniformBlock) (key : Lexeme) (m : Member) : Except Fault UniformBlock :=
  if m.isRuntime then .error (.runtimeArrayInUniformBlock b.name m.name)
  else if !m.isComplete then .error (.incompleteMember b.name m.type m.name)
  else .ok { b with members := b.members.insert key m }

/-- Brings a structure along, in place of the one under the same key. -/
def addStructure (b : UniformBlock) (key : Lexeme) (s : Structure) : UniformBlock :=
  ⟨b.toBlock.addStructure key s⟩

def source (b : UniformBlock) : String := b.bodySource [] "uniform"

end UniformBlock
end StageInterface
