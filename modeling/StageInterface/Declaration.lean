import StageInterface.Block.Storage
import StageInterface.Block.Uniform
import StageInterface.StageVariable

/-!
# Declarations

The five kinds of interface declarations, and what every declaration has: a
kind, a name, a text and a size.
-/

namespace StageInterface

inductive Kind
  | struct
  | stageInput
  | uniformBlock
  | storageBlock
  | stageOutput
deriving DecidableEq, Repr

namespace Kind

def all : List Kind := [struct, stageInput, uniformBlock, storageBlock, stageOutput]

def label : Kind → String
  | struct => "Structure"
  | stageInput => "Stage input"
  | uniformBlock => "Uniform block"
  | storageBlock => "Shader storage block"
  | stageOutput => "Stage output"

/-- The place of a kind in the order in which kinds are written. -/
def rank : Kind → Nat
  | struct => 0
  | stageInput => 1
  | uniformBlock => 2
  | storageBlock => 3
  | stageOutput => 4

def sort (l : List Kind) : List Kind := l.mergeSort (fun a b => a.rank ≤ b.rank)

end Kind

/-- A declaration of a shader interface. -/
inductive Declaration
  | struct (s : Structure)
  | stageInput (i : StageInput)
  | uniformBlock (b : UniformBlock)
  | storageBlock (b : StorageBlock)
  | stageOutput (o : StageOutput)
deriving DecidableEq

namespace Declaration

def kind : Declaration → Kind
  | struct _ => .struct
  | stageInput _ => .stageInput
  | uniformBlock _ => .uniformBlock
  | storageBlock _ => .storageBlock
  | stageOutput _ => .stageOutput

/-- The declared name; for a block the name of the block. -/
def name : Declaration → Lexeme
  | struct s => s.name
  | stageInput i => i.name
  | uniformBlock b => b.name
  | storageBlock b => b.name
  | stageOutput o => o.name

/-- Tells whether nothing that the kind needs is absent. -/
def isComplete : Declaration → Bool
  | struct s => s.isComplete
  | stageInput i => i.isComplete
  | uniformBlock b => b.isComplete
  | storageBlock b => b.isComplete
  | stageOutput o => o.isComplete

def struct? : Declaration → Option Structure
  | struct s => some s
  | _ => none

def stageInput? : Declaration → Option StageInput
  | stageInput i => some i
  | _ => none

def uniformBlock? : Declaration → Option UniformBlock
  | uniformBlock b => some b
  | _ => none

def storageBlock? : Declaration → Option StorageBlock
  | storageBlock b => some b
  | _ => none

def stageOutput? : Declaration → Option StageOutput
  | stageOutput o => some o
  | _ => none

/-- What the declaration has of a block, if it is a block. -/
def block? : Declaration → Option Block
  | uniformBlock b => some b.toBlock
  | storageBlock b => some b.toBlock
  | _ => none

def members? : Declaration → Option Members
  | struct s => some s.members
  | uniformBlock b => some b.members
  | storageBlock b => some b.members
  | _ => none

/-- Inserts a member under a key by the rules of the kind; stage variables have no members. -/
def addMember? (d : Declaration) (key : Lexeme) (m : Member) : Option (Except Fault Declaration) :=
  match d with
  | struct s => some (struct <$> s.addMember key m)
  | uniformBlock b => some (uniformBlock <$> b.addMember key m)
  | storageBlock b => some (storageBlock <$> b.addMember key m)
  | _ => none

/-- Brings a structure along under a key; only blocks do. -/
def addStructure? (d : Declaration) (key : Lexeme) (s : Structure) : Option Declaration :=
  match d with
  | uniformBlock b => some (uniformBlock (b.addStructure key s))
  | storageBlock b => some (storageBlock (b.addStructure key s))
  | _ => none

/-- The text of a block without the definitions of its structures. -/
def blockSource? : Declaration → Option String
  | uniformBlock b => some b.source
  | storageBlock b => some b.source
  | _ => none

/-- The text of the declaration; a block brings the definitions of its structures along. -/
def source : Declaration → Noted OrderWarning String
  | struct s => pure s.source
  | stageInput i => pure i.source
  | uniformBlock b => (· ++ b.source) <$> b.structuresSource
  | storageBlock b => (· ++ b.source) <$> b.structuresSource
  | stageOutput o => pure o.source

/-- The bytes of buffer memory that the declaration takes; stage variables take none. -/
def byteSize : Declaration → Noted LayoutWarning Size
  | struct s => s.byteSize
  | stageInput _ => pure 0
  | uniformBlock b => b.toBlock.byteSize
  | storageBlock b => b.toBlock.byteSize
  | stageOutput _ => pure 0

end Declaration
end StageInterface
