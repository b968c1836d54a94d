import StageInterface.Lexeme

/-!
# Vocabulary of shader interfaces

The words that interface declarations are written with, grouped by role, and
lexicons: sets of words that can be looked up without being added.
-/

namespace StageInterface
namespace Vocabulary

/-- Storage, direction and aggregate qualifiers. -/
def qualifiers : List String :=
  ["const", "uniform", "in", "out", "buffer", "layout", "struct"]

/-- Parameters of a `layout (...)` qualifier. -/
def layoutParameters : List String :=
  ["set", "binding", "location"]

/-- Memory layouts of a block. -/
def memoryLayouts : List String :=
  ["packed", "std140", "std430"]

/-- Interpolation qualifiers of a stage variable. -/
def interpolations : List String :=
  ["flat", "smooth", "noperspective", "centroid"]

/-- Memory qualifiers of a storage block. -/
def memoryQualifiers : List String :=
  ["coherent", "volatile", "restrict", "readonly", "writeonly"]

/-- Type names with a keyword of their own. -/
def typeNames : List String :=
  ["void", "bool", "int", "uint", "float", "double",
    "vec2", "vec3", "vec4", "ivec2", "ivec3", "ivec4", "uvec2", "uvec3", "uvec4",
    "mat2", "mat3", "mat4"]

/-- Variables that receive the vertex attributes. -/
def attributeVariables : List String :=
  ["sva_Vertex", "sva_Tangent", "sva_Binormal", "sva_Normal", "sva_Color",
    "sva_2DTexCoord0", "sva_3DTexCoord0", "sva_2DTexCoord1", "sva_3DTexCoord1",
    "sva_ModelMatrix", "sva_NormalModelMatrix"]

/-- Every word with a role in a declaration, group by group. -/
def tokens : List String :=
  qualifiers ++ layoutParameters ++ memoryLayouts ++ interpolations ++
    memoryQualifiers ++ typeNames ++ attributeVariables

/-- Words that shader text reserves, whether a declaration writes them or not. -/
def reserved : List String :=
  qualifiers ++ ["inout"] ++
    layoutParameters ++ ["offset", "align", "push_constant"] ++
    ["shared"] ++ memoryLayouts ++ interpolations ++ memoryQualifiers ++ typeNames

end Vocabulary

/-- A set of known words. -/
structure Lexicon where
  words : List String
deriving Repr

namespace Lexicon

/-- The lexicon without words. -/
def empty : Lexicon := ⟨[]⟩

/-- The lexicon of the reserved words. -/
def reserved : Lexicon := ⟨Vocabulary.reserved⟩

/-- Adds words to a lexicon. -/
def learn (lexicon : Lexicon) (texts : List String) : Lexicon :=
  ⟨lexicon.words ++ texts⟩

/-- The lexeme of a known word.  The absent lexeme is always known. -/
def find? (lexicon : Lexicon) (text : String) : Option Lexeme :=
  if text.isEmpty || lexicon.words.contains text then some ⟨text⟩ else none

end Lexicon
end StageInterface
