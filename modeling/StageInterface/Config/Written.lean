import StageInterface.Config
import StageInterface.Json.Read
import StageInterface.Json.Skip
import StageInterface.Layout.Policy

/-!
# Written settings

Settings as JSON.  They are written as an object with one field for each
setting, and read from an object with any of the fields in any order, or from a
sequence with the first of them.  Fields with other names are skipped.  Reading
goes from left to right and reports the first fault it meets.
-/

namespace StageInterface

/-- A name as a JSON string; the names of choices need no escapes. -/
def writeName (name : String) : String := "\"" ++ name ++ "\""

namespace Profile

def toJson (p : Profile) : String := writeName p.keyword

def read (s : List Char) : Json.Reading (Profile × List Char) :=
  Json.readChoice (all.map (fun p => (p.keyword, p))) s

def ofJson (text : String) : Json.Reading Profile := Json.readWhole read text

end Profile

namespace Policy

def toJson (p : Policy) : String := writeName p.keyword

def read (s : List Char) : Json.Reading (Policy × List Char) :=
  Json.readChoice (all.map (fun p => (p.keyword, p))) s

def ofJson (text : String) : Json.Reading Policy := Json.readWhole read text

end Policy

namespace Config

/-- What a value of another type is told to be. -/
def expectedName : String := "struct GeneratorConfig"

/-- The fields of written settings, in the order in which they are written. -/
inductive Field
  | glslVersion
  | profile
  | sectionComments
deriving DecidableEq, Repr

namespace Field

def all : List Field := [glslVersion, profile, sectionComments]

def key : Field → String
  | glslVersion => "glsl_version"
  | profile => "profile"
  | sectionComments => "section_comments"

def ofKey? (text : String) : Option Field := all.find? (fun f => f.key = text)

end Field

def valueToJson (c : Config) : Field → String
  | .glslVersion => toString c.glslVersion.toNat
  | .profile => c.profile.toJson
  | .sectionComments => if c.sectionComments then "true" else "false"

def toJson (c : Config) : String :=
  "\x7b" ++ ",".intercalate (Field.all.map (fun f => writeName f.key ++ ":" ++ c.valueToJson f)) ++
    "\x7d"

/-- Reads the value of one setting into settings. -/
def readSetting (c : Config) (f : Field) (s : List Char) : Json.Reading (Config × List Char) :=
  match f with
  | .glslVersion => do
      let (v, rest) ← Json.readNatural32 s
      pure ({ c with glslVersion := v }, rest)
  | .profile => do
      let (v, rest) ← Profile.read s
      pure ({ c with profile := v }, rest)
  | .sectionComments => do
      let (v, rest) ← Json.readBoolean s
      pure ({ c with sectionComments := v }, rest)

/-- Reads a field behind the quote that opens its key.  A field that was seen before is refused as
soon as its key has been read. -/
def readField (c : Config) (seen : List Field) (s : List Char) :
    Json.Reading ((Config × List Field) × List Char) := do
  let (key, s) ← Json.readText s
  match Field.ofKey? key with
  | some f =>
      if f ∈ seen then .error (.mismatch (.duplicate key))
      else
        let s ← Json.readColon s
        let (c, s) ← c.readSetting f s
        pure ((c, f :: seen), s)
  | none =>
      let s ← Json.readColon s
      let s ← Json.skipValue s
      pure ((c, seen), s)

/-- Reads the fields that follow a first one, up to the closing brace.  Each takes at least one
character, so `room` is the length of the text. -/
def readFields (c : Config) (seen : List Field) :
    (room : Nat) → List Char → Json.Reading (Config × List Char)
  | 0, _ => .error .truncated
  | room + 1, s =>
      match Json.skipBlanks s with
      | [] => .error .truncated
      | '\x7d' :: s => .ok (c, s)
      | ',' :: s =>
          match Json.skipBlanks s with
          | [] => .error .truncated
          | '"' :: s => do
              let ((c, seen), s) ← readField c seen s
              readFields c seen room s
          | _ => .error .malformed
      | _ => .error .malformed

/-- Reads an object behind its opening brace. -/
def readObject (s : List Char) : Json.Reading (Config × List Char) :=
  match Json.skipBlanks s with
  | [] => .error .truncated
  | '\x7d' :: s => .ok (standard, s)
  | '"' :: s => do
      let ((c, seen), s) ← readField standard [] s
      readFields c seen (s.length + 1) s
  | _ => .error .malformed

/-- Reads the elements of a sequence that give the remaining settings in order. -/
def readElements (c : Config) (first : Bool) :
    List Field → List Char → Json.Reading (Config × List Char)
  | [], s =>
      match Json.skipBlanks s with
      | [] => .error .truncated
      | ']' :: s => .ok (c, s)
      | _ => .error .malformed
  | f :: fields, s =>
      match Json.skipBlanks s with
      | [] => .error .truncated
      | ']' :: s => .ok (c, s)
      | ',' :: s =>
          if first then .error .malformed
          else
            match Json.skipBlanks s with
            | [] => .error .truncated
            | ']' :: _ => .error .malformed
            | s => do
                let (c, s) ← c.readSetting f s
                readElements c false fields s
      | s =>
          if first then do
            let (c, s) ← c.readSetting f s
            readElements c false fields s
          else .error .malformed

def read (s : List Char) : Json.Reading (Config × List Char) :=
  match Json.skipBlanks s with
  | [] => .error .truncated
  | '[' :: s => readElements standard true Field.all s
  | '\x7b' :: s => readObject s
  | s => Json.refuse expectedName s

def ofJson (text : String) : Json.Reading Config := Json.readWhole read text

end Config
end StageInterface
