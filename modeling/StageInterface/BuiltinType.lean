/-!
# Built-in types

The types that shader text names by itself.  A name that is none of them is the
name of a structure.

`BuiltinType.ofName?` reads a name and `BuiltinType.name` writes the canonical
one.  Handles (samplers, images, textures, subpass inputs, atomic counters) are
recognised by the beginning of their name and have no canonical name of their
own.
-/

namespace StageInterface

/-- Component type of scalars, vectors and matrices. -/
inductive Scalar
  | bool
  | int
  | uint
  | float
  | double
deriving DecidableEq, Repr

namespace Scalar

def all : List Scalar := [bool, int, uint, float, double]

def name : Scalar → String
  | bool => "bool"
  | int => "int"
  | uint => "uint"
  | float => "float"
  | double => "double"

/-- What the names of its vector types begin with. -/
def vectorStem : Scalar → String
  | bool => "bvec"
  | int => "ivec"
  | uint => "uvec"
  | float => "vec"
  | double => "dvec"

/-- What the names of its matrix types begin with. -/
def matrixStem : Scalar → String
  | double => "dmat"
  | _ => "mat"

/-- Bytes of one component in buffer memory; a truth value fills a whole word. -/
def byteSize : Scalar → Nat
  | double => 8
  | _ => 4

def ofName? (text : String) : Option Scalar :=
  all.find? (fun s => s.name = text)

end Scalar

/-- A type that shader text names by itself. -/
inductive BuiltinType
  | void
  | scalar (s : Scalar)
  | vector (s : Scalar) (components : Nat)
  /-- Column-major: `columns` vectors of `rows` components. -/
  | matrix (s : Scalar) (columns rows : Nat)
  /-- Samplers, images and the like, which have no place in buffer memory. -/
  | handle
deriving DecidableEq, Repr

namespace BuiltinType

/-- What the names of handle types begin with. -/
def handleStems : List String :=
  ["sampler", "isampler", "usampler", "image", "iimage", "uimage", "texture", "itexture",
    "utexture", "subpassInput", "isubpassInput", "usubpassInput"]

/-- The one handle type whose whole name is fixed. -/
def atomicCounter : String := "atomic_uint"

/-- Handle types are known by the beginning of their name. -/
def isHandleName (text : String) : Bool :=
  text = atomicCounter || handleStems.any (fun stem => stem.toList.isPrefixOf text.toList)

/-- A vector or matrix dimension: one of the digits two, three and four. -/
def dimension? : List Char → Option Nat
  | ['2'] => some 2
  | ['3'] => some 3
  | ['4'] => some 4
  | _ => none

/-- The dimensions of a matrix: one for a square matrix, or columns and rows. -/
def dimensions? : List Char → Option (Nat × Nat)
  | [c, 'x', r] => do
      let columns ← dimension? [c]
      let rows ← dimension? [r]
      pure (columns, rows)
  | text => do
      let n ← dimension? text
      pure (n, n)

/-- What stands behind the stem in a text that begins with it. -/
def afterStem? (stem : String) (text : String) : Option (List Char) :=
  stem.toList.isPrefixOf? text.toList

def vectorOfName? (text : String) : Option BuiltinType :=
  Scalar.all.findSome? fun s => do
    let rest ← afterStem? s.vectorStem text
    let components ← dimension? rest
    pure (vector s components)

/-- The matrix type of a name; matrices hold floating-point numbers. -/
def matrixOfName? (text : String) : Option BuiltinType :=
  [Scalar.float, Scalar.double].findSome? fun s => do
    let rest ← afterStem? s.matrixStem text
    let (columns, rows) ← dimensions? rest
    pure (matrix s columns rows)

/-- The built-in type of a name; other names are names of structures. -/
def ofName? (text : String) : Option BuiltinType :=
  if text = "void" then some void
  else ((Scalar.ofName? text).map scalar).or <|
    (vectorOfName? text).or <|
    (matrixOfName? text).or <|
    if isHandleName text then some handle else none

/-- The canonical name; a square matrix is named by one dimension. -/
def name : BuiltinType → String
  | void => "void"
  | scalar s => s.name
  | vector s components => s.vectorStem ++ toString components
  | matrix s columns rows =>
      s.matrixStem ++ toString columns ++ (if columns = rows then "" else "x" ++ toString rows)
  | handle => "opaque"

def isHandle : BuiltinType → Bool
  | handle => true
  | _ => false

end BuiltinType
end StageInterface
