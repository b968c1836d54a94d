import StageInterface.Fault
import StageInterface.Member
import StageInterface.OrderedMap

/-!
# Structures

A structure is a named aggregate of members, kept in the order in which their
keys were first inserted.  The structures that a block brings along form a
scope, in which member types are looked up by key.
-/

namespace StageInterface

/-- Members under their keys. -/
abbrev Members := OrderedMap Lexeme Member

/-- A named aggregate type. -/
structure Structure where
  name : Lexeme
  members : Members
deriving DecidableEq

/-- Structures under the keys by which member types refer to them. -/
abbrev Scope := OrderedMap Lexeme Structure

/-- The text of members inside braces, one indented line for each. -/
def Members.source (members : Members) : String :=
  String.join (members.values.map (fun m => "\t" ++ m.source))

namespace Structure

instance : Inhabited Structure := ⟨⟨default, default⟩⟩

/-- How deep structures may nest before following them is given up. -/
def nestingLimit : Nat := 16

/-- The structure of a name, without members yet. -/
def ofName (name : Lexeme) : Structure := ⟨name, .empty⟩

def isComplete (s : Structure) : Bool := s.name.isPresent

/-- Inserts a member or overwrites the one under its key. -/
def addMember (s : Structure) (key : Lexeme) (m : Member) : Except Fault Structure :=
  if !m.isComplete then .error (.incompleteMember s.name m.type m.name)
  else if m.isRuntime then .error (.runtimeArrayInStructure s.name m.name)
  else .ok { s with members := s.members.insert key m }

def withMember (s : Structure) (m : Member) : Except Fault Structure := s.addMember m.name m

def source (s : Structure) : String :=
  "struct " ++ s.name.text ++ "\n\x7b\n" ++ s.members.source ++ "\x7d;\n"

end Structure
end StageInterface
