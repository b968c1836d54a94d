/-!
# Generation settings

Settings shared by the stages of a program: the language version and profile in
the first line of the text, and whether sections have titles.
-/

namespace StageInterface

/-- Language profile behind the version number. -/
inductive Profile
  | core
  | compatibility
  | es
deriving DecidableEq, Repr

namespace Profile

instance : Inhabited Profile := ⟨core⟩

def all : List Profile := [core, compatibility, es]

def keyword : Profile → String
  | core => "core"
  | compatibility => "compatibility"
  | es => "es"

def ofKeyword? (text : String) : Option Profile :=
  all.find? (fun p => p.keyword = text)

end Profile

/-- Settings of the text generation. -/
structure Config where
  glslVersion : UInt32
  profile : Profile
  /-- Each section has a comment with its title, and empty sections are mentioned. -/
  sectionComments : Bool
deriving DecidableEq, Repr

namespace Config

/-- What applies where nothing else is set. -/
def standard : Config := ⟨450, .core, true⟩

instance : Inhabited Config := ⟨standard⟩

def withVersion (c : Config) (glslVersion : UInt32) (profile : Profile) : Config :=
  { c with glslVersion := glslVersion, profile := profile }

end Config
end StageInterface
