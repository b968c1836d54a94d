import StageInterface.Layout.Resolution
import StageInterface.Structure.DefinitionOrder

/-!
# Buffer-backed blocks

What uniform and storage blocks share: a header that says where the block is
bound and how it is laid out, ordered members, and the structures that the
members use.
-/

namespace StageInterface

/-- Where a block is bound, how it is laid out and what it is called. -/
structure BlockHeader where
  set : UInt32
  binding : UInt32
  policy : Policy
  name : Lexeme
  /-- Absent when the members are used without a qualifying name. -/
  instanceName : Lexeme
  extent : Extent
deriving DecidableEq, Inhabited

/-- A block of buffer memory. -/
structure Block extends BlockHeader where
  members : Members
  structures : Scope
deriving DecidableEq, Inhabited

namespace Block

/-- The block of a header, without members yet. -/
def ofHeader (h : BlockHeader) : Block := ⟨h, .empty, .empty⟩

def isComplete (b : Block) : Bool := b.name.isPresent

/-- Brings a structure along, in place of the one under the same key. -/
def addStructure (b : Block) (key : Lexeme) (s : Structure) : Block :=
  { b with structures := b.structures.insert key s }

/-- The layout of the block's body under its own policy. -/
def layout (b : Block) : Noted LayoutWarning Placement :=
  layoutMembers b.policy b.structures b.name b.members

/-- The size of the block; a trailing array without a fixed length adds nothing. -/
def byteSize (b : Block) : Noted LayoutWarning Size :=
  (fun placement => placement.footprint.size) <$> b.layout

/-- The key and the offset of every member, in member order. -/
def memberOffsets (b : Block) : Noted LayoutWarning (List (Lexeme × Size)) :=
  (fun placement => b.members.keys.zip placement.offsets) <$> b.layout

/-- The structures of the block, each after those it uses. -/
def orderedStructures (b : Block) : Noted OrderWarning (List Structure) :=
  DefinitionOrder.arrange [] (DefinitionOrder.ofScope b.structures)

def structuresSource (b : Block) : Noted OrderWarning String :=
  Structure.sources <$> b.orderedStructures

/-- The address of the block in a `layout (...)` qualifier. -/
def addressSource (b : Block) : String :=
  "layout (" ++ b.policy.keyword ++ ", set = " ++ toString b.set.toNat ++
    ", binding = " ++ toString b.binding.toNat ++ ") "

/-- What follows the members: the instance name with its extent, if there is one. -/
def closingSource (b : Block) : String :=
  match b.instanceName.present? with
  | some name => "\x7d " ++ name.text ++ b.extent.suffix ++ ";\n"
  | none => "\x7d;\n"

/-- The declaration of the block alone, with its qualifiers and the keyword of its kind. -/
def bodySource (b : Block) (qualifiers : List String) (keyword : String) : String :=
  b.addressSource ++ String.join (qualifiers.map (· ++ " ")) ++ keyword ++ " " ++ b.name.text ++
    "\n\x7b\n" ++ b.members.source ++ b.closingSource

end Block
end StageInterface
