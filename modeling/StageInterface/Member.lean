import StageInterface.BuiltinType
import StageInterface.Extent
import StageInterface.Layout.Placement
import StageInterface.Lexeme

/-!
# Members

A member is a field of a block or structure: a type, a name and an extent.
-/

namespace StageInterface

/-- The built-in type that a lexeme names, if it names one. -/
def Lexeme.builtin? (l : Lexeme) : Option BuiltinType := BuiltinType.ofName? l.text

/-- A field of a block or structure. -/
structure Member where
  type : Lexeme
  name : Lexeme
  extent : Extent
deriving DecidableEq, Inhabited

namespace Member

/-- A member that is no array. -/
def single (type name : Lexeme) : Member := ⟨type, name, .single⟩

/-- A member is complete when it has a type and a name. -/
def isComplete (m : Member) : Bool := m.type.isPresent && m.name.isPresent

def isRuntime (m : Member) : Bool := m.extent.isRuntime

def builtin? (m : Member) : Option BuiltinType := m.type.builtin?

/-- The declaration of the member on a line of its own. -/
def source (m : Member) : String :=
  m.type.text ++ " " ++ m.name.text ++ m.extent.suffix ++ ";\n"

/-- The shape of the member, given the footprint of one element. -/
def shape (p : Policy) (m : Member) (element : Footprint) : Shape :=
  match m.extent with
  | .single => .sized element
  | .fixed count _ => .sized (p.array element count.toNat)
  | .runtime => .runtime element

end Member
end StageInterface
