import StageInterface.Block
import StageInterface.Digest.Xxh3
import StageInterface.Stage
import StageInterface.Text.Lines

/-!
# Stage sources

The generated text of one stage, with what the host needs to bind its blocks.
-/

namespace StageInterface

/-- Where a block of the text is bound and how many bytes it takes. -/
structure BlockBinding where
  name : Lexeme
  set : UInt32
  binding : UInt32
  byteSize : Size
deriving DecidableEq

def Block.summary (b : Block) : Noted LayoutWarning BlockBinding :=
  (fun size => ⟨b.name, b.set, b.binding, size⟩) <$> b.byteSize

/-- The generated text of one stage. -/
structure StageSource where
  stage : Stage
  name : String
  code : String
  uniformBlocks : List BlockBinding
  storageBlocks : List BlockBinding
deriving DecidableEq

namespace StageSource

/-- The digest of the text; equal texts have equal digests. -/
def digest (s : StageSource) : Nat := Digest.ofText s.code

def lineCount (s : StageSource) : Nat := Text.lineCount s.code

end StageSource
end StageInterface
