import StageInterface.Config
import StageInterface.Interface
import StageInterface.Text.Lines

/-!
# Rendering

The text of a stage: a line with the language version, a line for each
extension, a comment that names the stage, a section for each kind of
declaration, and the main function if there is one.  Names and statements are
written as they are.  The text ends in exactly one newline.
-/

namespace StageInterface

/-- A part of the text with a title. -/
structure Section where
  title : String
  code : String
deriving DecidableEq

/-- The sections of an interface whose structure definitions are in order. -/
def Interface.sections (i : Interface) : List Section :=
  [⟨"Structures", Structure.sources i.structures⟩,
    ⟨"Stage inputs (From previous stage)", String.join (i.stageInputs.map StageInput.source)⟩,
    ⟨"Uniform blocks", String.join (i.uniformBlocks.map UniformBlock.source)⟩,
    ⟨"Shader storage blocks", String.join (i.storageBlocks.map StorageBlock.source)⟩,
    ⟨"Stage outputs (To next stage)", String.join (i.stageOutputs.map StageOutput.source)⟩]

/-- A section with its title, if sections have titles; an empty one is only mentioned. -/
def Section.render (comments : Bool) (s : Section) : String :=
  if s.code.isEmpty then
    if comments then "/* No " ++ s.title ++ " */\n\n" else ""
  else
    (if comments then "/* " ++ s.title ++ " */\n" else "") ++ s.code ++ "\n"

/-- The main function around its statements. -/
def renderMain : Option String → String
  | none => ""
  | some body => "void main ()\n\x7b\n" ++ Text.trimNewlines body ++ "\n\x7d\n"

namespace Definition

/-- The lines before the sections. -/
def header (f : Definition) (c : Config) : String :=
  "#version " ++ toString c.glslVersion.toNat ++ " " ++ c.profile.keyword ++ "\n" ++
    String.join (f.extensions.map (fun e => e.directive ++ "\n")) ++
    "\n/* " ++ f.stage.label ++ " : " ++ f.name ++ " */\n\n"

/-- The text of the stage with the given interface. -/
def render (f : Definition) (c : Config) (i : Interface) : String :=
  Text.trimNewlines
      (f.header c ++ String.join (i.sections.map (Section.render c.sectionComments)) ++
        renderMain f.mainBody) ++ "\n"

end Definition
end StageInterface
