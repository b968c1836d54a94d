import StageInterface.Noted
import StageInterface.Structure

/-!
# Ordering of structure definitions

Text must define a structure before it uses it.  Definitions are therefore put
in order by visiting each structure after the structures that its members use.
A name is defined once: the first definition wins, and a later one that differs
is noticed.

Member types are looked up in the scope that a structure was registered in, and
then among the standalone structures.
-/

namespace StageInterface

/-- What is noticed while structures are put in order. -/
inductive OrderWarning
  /-- The structures around this one nest too deep to follow it. -/
  | tooDeep (name : Lexeme)
  /-- A definition of the same name that differs came first. -/
  | conflict (name : Lexeme)
deriving DecidableEq

def OrderWarning.message : OrderWarning → String
  | tooDeep name => "Structure nesting too deep while ordering '" ++ name.text ++ "'"
  | conflict name =>
      "Conflicting definitions of structure '" ++ name.text ++
        "', keeping the first one emitted"

namespace DefinitionOrder

/-- The structure that a type name refers to: in the scope, or else a standalone one. -/
def lookup? (standalone : List Structure) (scope : Scope) (type : Lexeme) : Option Structure :=
  (scope.get? type).or (standalone.find? (fun s => s.name = type))

/-- The structures that the members of a structure use, in member order. -/
def dependencies (standalone : List Structure) (scope : Scope) (s : Structure) : List Structure :=
  s.members.values.filterMap fun m =>
    if m.builtin?.isSome then none else lookup? standalone scope m.type

/-- The definition that has the name of a structure already, if any. -/
def definition? (done : List Structure) (name : Lexeme) : Option Structure :=
  done.find? (fun s => s.name = name)

/-- Tells whether the name of a structure is defined, and notices a different definition. -/
def isDefined (done : List Structure) (s : Structure) : Noted OrderWarning Bool :=
  match definition? done s.name with
  | none => pure false
  | some first => do
      Noted.noteIf (first ≠ s) (.conflict s.name)
      pure true

/-- Adds a structure to the definitions, after what it uses, following at most `room` levels. -/
def visit
    (standalone : List Structure)
    (scope : Scope)
    (room : Nat)
    (done : List Structure)
    (s : Structure) :
    Noted OrderWarning (List Structure) := do
  if ← isDefined done s then
    pure done
  else
    match room with
    | 0 => do
        Noted.note (.tooDeep s.name)
        pure done
    | room + 1 => do
        let done ← (dependencies standalone scope s).foldlM (visit standalone scope room) done
        if ← isDefined done s then
          pure done
        else
          pure (done ++ [s])

/-- Puts registered structures in order, each with the scope it was registered in. -/
def arrange
    (standalone : List Structure)
    (registered : List (Scope × Structure)) :
    Noted OrderWarning (List Structure) :=
  registered.foldlM (fun done r => visit standalone r.1 Structure.nestingLimit done r.2) []

/-- The structures of a scope, registered in it. -/
def ofScope (scope : Scope) : List (Scope × Structure) :=
  scope.values.map (fun s => (scope, s))

end DefinitionOrder

/-- The text of structure definitions in the given order. -/
def Structure.sources (l : List Structure) : String := String.join (l.map Structure.source)

end StageInterface
