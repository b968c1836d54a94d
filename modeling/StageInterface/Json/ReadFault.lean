import StageInterface.Decimal.Format
import StageInterface.Text.Quoted

/-!
# Reading faults

Why a JSON text cannot be read: it is malformed, it ends too early, or it is
well formed but holds something else than what is expected.
-/

namespace StageInterface
namespace Json

/-- What stands in a text where something else is expected. -/
inductive Found
  | null
  | boolean (value : Bool)
  | integer (value : Int)
  | real (value : Float)
  | text (value : String)
  | sequence
  | map

def Found.describe : Found → String
  | null => "null"
  | boolean value => "boolean `" ++ (if value then "true" else "false") ++ "`"
  | integer value => "integer `" ++ toString value ++ "`"
  | real value => "floating point `" ++ Decimal.Format.plain.writeFloat value ++ "`"
  | text value => "string " ++ Text.quoted value
  | sequence => "sequence"
  | map => "map"

/-- Why a well-formed value is refused. -/
inductive Mismatch
  /-- The value is of another type than the expected one. -/
  | type (found : Found) (expected : String)
  /-- The number is out of the expected range. -/
  | range (value : Int) (expected : String)
  /-- The name is none of the expected ones. -/
  | variant (name : String) (expected : List String)
  /-- The field is given a second time. -/
  | duplicate (field : String)

def Mismatch.message : Mismatch → String
  | type found expected => "invalid type: " ++ found.describe ++ ", expected " ++ expected
  | range value expected =>
      "invalid value: integer `" ++ toString value ++ "`, expected " ++ expected
  | variant name expected =>
      "unknown variant `" ++ name ++ "`, expected one of " ++
        ", ".intercalate (expected.map (fun e => "`" ++ e ++ "`"))
  | duplicate field => "duplicate field `" ++ field ++ "`"

/-- The causes of refusal, the first one from left to right. -/
inductive ReadFault
  | malformed
  | truncated
  | mismatch (m : Mismatch)

/-- Reading from the start of a text gives a result, which includes the text behind what was read,
or the first fault. -/
abbrev Reading := Except ReadFault

/-- Blanks between the parts of a text. -/
def isBlank (c : Char) : Bool := c = ' ' || c = '\t' || c = '\n' || c = '\r'

/-- The text behind the blanks at its start. -/
def skipBlanks (s : List Char) : List Char := s.dropWhile isBlank

def readWord : (word : List Char) → List Char → Reading (List Char)
  | [], s => .ok s
  | _ :: _, [] => .error .truncated
  | w :: word, c :: s => if c = w then readWord word s else .error .malformed

def readColon (s : List Char) : Reading (List Char) :=
  match skipBlanks s with
  | [] => .error .truncated
  | ':' :: s => .ok s
  | _ => .error .malformed

end Json
end StageInterface
