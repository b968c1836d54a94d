import StageInterface.Definition
import StageInterface.StageSource

/-!
# Events

What happens while declarations are collected and text is generated, with a
level of importance for each event.
-/

namespace StageInterface

inductive Level
  | warn
  | debug
  | trace
deriving DecidableEq, Repr

namespace Level

def label : Level → String
  | warn => "WARN"
  | debug => "DEBUG"
  | trace => "TRACE"

/-- The place of a level, the most important one first. -/
def rank : Level → Nat
  | warn => 0
  | debug => 1
  | trace => 2

/-- Tells whether an event of level `l` is reported when levels down to `threshold` are. -/
def admits (threshold l : Level) : Bool := l.rank ≤ threshold.rank

end Level

/-- What happens on the way to a text. -/
inductive Event
  | layout (w : LayoutWarning)
  | order (w : OrderWarning)
  | redeclared (r : Redeclaration)
  | generating (stage : Stage) (name : String)
  | counted (census : Census)
  | skippedIncomplete (kind : Kind) (name : Lexeme) (shader : String)
  | skippedRuntimeInput (name : Lexeme)
  | skippedRuntimeOutput (name : Lexeme)
  | skippedForAttribute (name : Lexeme) (a : VertexAttribute)
  | ordering (name : String)
  | emitting (name : String)
  | generated (source : StageSource)
deriving DecidableEq

namespace Event

def level : Event → Level
  | layout _ | order _ | redeclared _ => .warn
  | generating _ _ | ordering _ | emitting _ => .trace
  | counted _ | skippedIncomplete _ _ _ | skippedRuntimeInput _ | skippedRuntimeOutput _
  | skippedForAttribute _ _ | generated _ => .debug

def message : Event → String
  | layout w => w.message
  | order w => w.message
  | redeclared r => r.message
  | generating stage name => "Generating " ++ stage.label ++ " '" ++ name ++ "'"
  | counted census => census.report
  | skippedIncomplete kind name shader =>
      "Skipping invalid " ++ kind.label ++ " '" ++ name.text ++ "' in '" ++ shader ++ "'"
  | skippedRuntimeInput name => "Skipping unsized stage input '" ++ name.text ++ "'"
  | skippedRuntimeOutput name => "Skipping unsized stage output '" ++ name.text ++ "'"
  | skippedForAttribute name a =>
      "Skipping stage input '" ++ name.text ++ "': geometry has no " ++ a.name ++ " attribute"
  | ordering name => "Ordering declarations of '" ++ name ++ "'"
  | emitting name => "Emitting '" ++ name ++ "'"
  | generated source =>
      "Generated " ++ source.stage.label ++ " '" ++ source.name ++ "': " ++
        toString source.lineCount ++ " lines, hash " ++ Digest.hex32 source.digest

/-- An event as a line of a report. -/
def line (e : Event) : String := e.level.label ++ " " ++ e.message

/-- The report of the events down to a level. -/
def report (threshold : Level) (events : List Event) : List String :=
  (events.filter (fun e => threshold.admits e.level)).map line

end Event
end StageInterface
