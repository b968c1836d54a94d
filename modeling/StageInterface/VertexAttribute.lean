import StageInterface.Lexeme

/-!
# Vertex attributes

The attributes that a geometry may provide.  Each has a fixed location, a type
and the name of the variable that receives it; a matrix takes one location for
each of its columns.

**Results.**
* `AttributeSet.contains_ofList`: a collected set contains what was collected.
-/

namespace StageInterface

/-- An attribute of each vertex or each instance. -/
inductive VertexAttribute
  | position
  | tangent
  | binormal
  | normal
  | primary2DTextureCoordinates
  | primary3DTextureCoordinates
  | secondary2DTextureCoordinates
  | secondary3DTextureCoordinates
  | vertexColor
  | modelMatrix
  | normalModelMatrix
deriving DecidableEq, Repr

namespace VertexAttribute

def all : List VertexAttribute :=
  [position, tangent, binormal, normal, primary2DTextureCoordinates,
    primary3DTextureCoordinates, secondary2DTextureCoordinates,
    secondary3DTextureCoordinates, vertexColor, modelMatrix, normalModelMatrix]

def name : VertexAttribute → String
  | position => "Position"
  | tangent => "Tangent"
  | binormal => "Binormal"
  | normal => "Normal"
  | primary2DTextureCoordinates => "Primary2DTextureCoordinates"
  | primary3DTextureCoordinates => "Primary3DTextureCoordinates"
  | secondary2DTextureCoordinates => "Secondary2DTextureCoordinates"
  | secondary3DTextureCoordinates => "Secondary3DTextureCoordinates"
  | vertexColor => "VertexColor"
  | modelMatrix => "ModelMatrix"
  | normalModelMatrix => "NormalModelMatrix"

def ofName? (text : String) : Option VertexAttribute :=
  all.find? (fun a => a.name = text)

def location : VertexAttribute → UInt32
  | position => 0
  | tangent => 1
  | binormal => 2
  | normal => 3
  | primary2DTextureCoordinates => 4
  | primary3DTextureCoordinates => 5
  | secondary2DTextureCoordinates => 6
  | secondary3DTextureCoordinates => 7
  | vertexColor => 8
  | modelMatrix => 9
  | normalModelMatrix => 13

def type : VertexAttribute → Lexeme
  | primary2DTextureCoordinates | secondary2DTextureCoordinates => ⟨"vec2"⟩
  | vertexColor => ⟨"vec4"⟩
  | modelMatrix => ⟨"mat4"⟩
  | normalModelMatrix => ⟨"mat3"⟩
  | _ => ⟨"vec3"⟩

/-- The variable that receives the attribute. -/
def variableName : VertexAttribute → Lexeme
  | position => ⟨"sva_Vertex"⟩
  | tangent => ⟨"sva_Tangent"⟩
  | binormal => ⟨"sva_Binormal"⟩
  | normal => ⟨"sva_Normal"⟩
  | primary2DTextureCoordinates => ⟨"sva_2DTexCoord0"⟩
  | primary3DTextureCoordinates => ⟨"sva_3DTexCoord0"⟩
  | secondary2DTextureCoordinates => ⟨"sva_2DTexCoord1"⟩
  | secondary3DTextureCoordinates => ⟨"sva_3DTexCoord1"⟩
  | vertexColor => ⟨"sva_Color"⟩
  | modelMatrix => ⟨"sva_ModelMatrix"⟩
  | normalModelMatrix => ⟨"sva_NormalModelMatrix"⟩

def index : VertexAttribute → Nat
  | position => 0
  | tangent => 1
  | binormal => 2
  | normal => 3
  | primary2DTextureCoordinates => 4
  | primary3DTextureCoordinates => 5
  | secondary2DTextureCoordinates => 6
  | secondary3DTextureCoordinates => 7
  | vertexColor => 8
  | modelMatrix => 9
  | normalModelMatrix => 10

theorem index_lt (a : VertexAttribute) : a.index < 11 := by
  cases a <;> decide

theorem index_inj {a b : VertexAttribute} : a.index = b.index ↔ a = b := by
  constructor
  · cases a <;> cases b <;> first | exact fun _ => rfl | exact fun h => absurd h (by decide)
  · rintro rfl
    rfl

end VertexAttribute

/-- What a geometry provides: the answer to the question for each attribute. -/
abbrev Geometry := VertexAttribute → Bool

/-- A set of vertex attributes, one bit for each. -/
structure AttributeSet where
  bits : BitVec 11
deriving DecidableEq, Inhabited

namespace AttributeSet

def empty : AttributeSet := ⟨0⟩

def full : AttributeSet := ⟨BitVec.allOnes 11⟩

/-- The set of one attribute. -/
def singleton (a : VertexAttribute) : AttributeSet := ⟨BitVec.twoPow 11 a.index⟩

def insert (s : AttributeSet) (a : VertexAttribute) : AttributeSet :=
  ⟨s.bits ||| (singleton a).bits⟩

/-- The set of the attributes of a list. -/
def ofList (l : List VertexAttribute) : AttributeSet := l.foldl insert empty

/-- The set of the known bits of a number. -/
def ofBits (n : Nat) : AttributeSet := ⟨BitVec.ofNat 11 n⟩

/-- The set of the bits of a number, if all of them are known. -/
def ofBits? (n : Nat) : Option AttributeSet :=
  if n < Nat.pow 2 11 then some (ofBits n) else none

def contains (s : AttributeSet) (a : VertexAttribute) : Bool := s.bits.getLsbD a.index

def toList (s : AttributeSet) : List VertexAttribute := VertexAttribute.all.filter s.contains

theorem contains_insert (s : AttributeSet) (a b : VertexAttribute) :
    (s.insert a).contains b = (s.contains b || decide (b = a)) := by
  simp only [contains, insert, singleton, BitVec.getLsbD_or, BitVec.getLsbD_twoPow]
  rw [decide_eq_true (VertexAttribute.index_lt a), Bool.true_and]
  congr 1
  exact decide_eq_decide.2 (VertexAttribute.index_inj.trans eq_comm)

/-- A set collected from a list contains what the list contains. -/
theorem contains_ofList (l : List VertexAttribute) (a : VertexAttribute) :
    (ofList l).contains a = true ↔ a ∈ l := by
  suffices h : ∀ s : AttributeSet,
      (l.foldl insert s).contains a = true ↔ s.contains a = true ∨ a ∈ l by
    have hempty : empty.contains a = false := by cases a <;> decide
    simp [ofList, h, hempty]
  induction l with
  | nil => simp
  | cons b l ih =>
    intro s
    rw [List.foldl_cons, ih, contains_insert]
    simp only [Bool.or_eq_true, decide_eq_true_eq, List.mem_cons, or_assoc]

end AttributeSet
end StageInterface
