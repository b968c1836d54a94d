import StageInterface.Noted
import StageInterface.Structure

/-!
# Layout of members

The footprint of a member is that of its built-in type, or that of the
structure its type is the key of.  Structures are followed a bounded number of
levels, so that a structure which contains itself still has a layout.  A member
whose footprint cannot be found takes no room, and a warning says so.
-/

namespace StageInterface

/-- What is noticed while a layout is computed. -/
inductive LayoutWarning
  /-- The structures around the member nest too deep to follow its type. -/
  | tooDeep (member : Lexeme)
  /-- The member of `owner` has no footprint. -/
  | unresolved (owner : Lexeme) (member : Member)
deriving DecidableEq

def LayoutWarning.message : LayoutWarning → String
  | tooDeep member =>
      "Structure nesting too deep while resolving member '" ++ member.text ++ "'"
  | unresolved owner member =>
      "Cannot resolve the layout of member '" ++ member.name.text ++ "' (" ++ member.type.text ++
        ") in '" ++ owner.text ++ "', counted as 0 bytes"

/-- The shape of a member that takes no room. -/
def Shape.vacant : Shape := .sized ⟨0, 1⟩

/-- The shape of a member of `owner`, given how the footprint of an element is found. -/
def memberShape
    (p : Policy)
    (element? : Member → Noted LayoutWarning (Option Footprint))
    (owner : Lexeme)
    (m : Member) :
    Noted LayoutWarning Shape := do
  match ← element? m with
  | some f => pure (m.shape p f)
  | none =>
      Noted.note (.unresolved owner m)
      pure Shape.vacant

/-- Places the members of `owner`, given how the footprint of an element is found. -/
def placeMembers
    (p : Policy)
    (element? : Member → Noted LayoutWarning (Option Footprint))
    (owner : Lexeme)
    (members : List Member) :
    Noted LayoutWarning Placement :=
  p.place <$> members.mapM (memberShape p element? owner)

/-- The footprint of one element of a member, following structures at most `room` levels. -/
def elementFootprint?
    (p : Policy)
    (scope : Scope)
    (room : Nat)
    (m : Member) :
    Noted LayoutWarning (Option Footprint) :=
  match m.builtin?, room with
  | some t, _ => pure (p.builtin? t)
  | none, 0 => do
      Noted.note (.tooDeep m.name)
      pure none
  | none, room + 1 =>
      match scope.get? m.type with
      | none => pure none
      | some s =>
          (fun placement => some placement.footprint) <$>
            placeMembers p (elementFootprint? p scope room) s.name s.members.values

/-- The layout of the members of `owner`, whose structure types are found in `scope`. -/
def layoutMembers
    (p : Policy)
    (scope : Scope)
    (owner : Lexeme)
    (members : Members) :
    Noted LayoutWarning Placement :=
  placeMembers p (elementFootprint? p scope Structure.nestingLimit) owner members.values

namespace Structure

/-- The layout of the structure, whose structure types are found in `scope`. -/
def layout (s : Structure) (p : Policy) (scope : Scope) : Noted LayoutWarning Placement :=
  layoutMembers p scope s.name s.members

/-- The `std140` size of the structure taken alone. -/
def byteSize (s : Structure) : Noted LayoutWarning Size :=
  (fun placement => placement.footprint.size) <$> s.layout .std140 .empty

end Structure

/-- There is one offset for each member. -/
theorem length_offsets_placeMembers
    (p : Policy)
    (element? : Member → Noted LayoutWarning (Option Footprint))
    (owner : Lexeme)
    (members : List Member) :
    (placeMembers p element? owner members).value.offsets.length = members.length := by
  simp [placeMembers, Policy.length_offsets_place, Noted.value_mapM]

end StageInterface
