import StageInterface.Block

/-!
# Storage blocks

A storage block may carry memory qualifiers, and its last member may be an
array that the bound buffer sizes.  A change of members that would leave such
an array in front of another member is refused; this is judged from the
positions of the members before the change.
-/

namespace StageInterface

/-- How the memory of a storage block may be used. -/
inductive MemoryQualifier
  | coherent
  | volatile
  | restrict
  | readonly
  | writeonly
deriving DecidableEq, Repr

namespace MemoryQualifier

def all : List MemoryQualifier := [coherent, volatile, restrict, readonly, writeonly]

def keyword : MemoryQualifier → String
  | coherent => "coherent"
  | volatile => "volatile"
  | restrict => "restrict"
  | readonly => "readonly"
  | writeonly => "writeonly"

def index : MemoryQualifier → Nat
  | coherent => 0
  | volatile => 1
  | restrict => 2
  | readonly => 3
  | writeonly => 4

end MemoryQualifier

/-- A set of memory qualifiers, one bit for each. -/
structure MemoryQualifiers where
  bits : BitVec 5
deriving DecidableEq, Inhabited

namespace MemoryQualifiers

/-- The set of the known bits of a number. -/
def ofBits (n : Nat) : MemoryQualifiers := ⟨BitVec.ofNat 5 n⟩

def contains (q : MemoryQualifiers) (m : MemoryQualifier) : Bool := q.bits.getLsbD m.index

/-- The words of the set, in the order in which they are written. -/
def keywords (q : MemoryQualifiers) : List String :=
  (MemoryQualifier.all.filter q.contains).map MemoryQualifier.keyword

end MemoryQualifiers

/-- A `buffer` block. -/
structure StorageBlock extends Block where
  qualifiers : MemoryQualifiers
deriving DecidableEq, Inhabited

/-- The first member sized at run time, with its position. -/
def runtimeSlot? (l : List Member) : Option (Member × Nat) :=
  l.zipIdx.find? (fun e => e.1.isRuntime)

/-- The array sized at run time that another member would stand behind if `m` came to stand at
`slot`, where `last` is the last position then.  Only the first such array among the members so far
is looked at. -/
def strayRuntime? (l : List Member) (slot last : Nat) (m : Member) : Option Member :=
  let other? := (runtimeSlot? l).filter (fun e => e.2 ≠ slot)
  if m.isRuntime then
    if slot = last then other?.map Prod.fst else some m
  else
    (other?.filter (fun e => e.2 ≠ last)).map Prod.fst

namespace StorageBlock

/-- The storage block of a header, without members or qualifiers yet. -/
def ofHeader (h : BlockHeader) : StorageBlock := ⟨Block.ofHeader h, ⟨0⟩⟩

def withQualifiers (b : StorageBlock) (q : MemoryQualifiers) : StorageBlock :=
  { b with qualifiers := q }

/-- Where a member would stand under a key, and which position would then be the last. -/
def slots (b : StorageBlock) (key : Lexeme) : Nat × Nat :=
  match b.members.indexOf? key with
  | some i => (i, b.members.size - 1)
  | none => (b.members.size, b.members.size)

/-- Inserts a member or overwrites the one under its key, unless that would put an array sized
at run time in front of another member. -/
def addMember (b : StorageBlock) (key : Lexeme) (m : Member) : Except Fault StorageBlock :=
  if !m.isComplete then .error (.incompleteMember b.name m.type m.name)
  else
    match strayRuntime? b.members.values (b.slots key).1 (b.slots key).2 m with
    | some stray => .error (.runtimeArrayNotLast b.name stray.name)
    | none => .ok { b with members := b.members.insert key m }

/-- Brings a structure along, in place of the one under the same key. -/
def addStructure (b : StorageBlock) (key : Lexeme) (s : Structure) : StorageBlock :=
  { b with toBlock := b.toBlock.addStructure key s }

def hasRuntimeArray (b : StorageBlock) : Bool := (runtimeSlot? b.members.values).isSome

def source (b : StorageBlock) : String := b.bodySource b.qualifiers.keywords "buffer"

end StorageBlock
end StageInterface
