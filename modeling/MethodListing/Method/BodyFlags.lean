/-
  MethodListing.Method.BodyFlags — THE FLAG BITS OF A BODY HEADER.

  The two lowest bits of a header's first byte say which of the two header
  formats follows; a fat header has two more named bits.  The format values
  overlap: the tiny format is one of the two bits of the fat format.

  Main results:
    * `HeaderFormat.ofFirstByte?_eq` — the format follows from the first byte
      modulo four.
-/
import MethodListing.FlagSet

namespace MethodListing

/-- The names of a body header's bits. -/
def bodyFlagVocabulary : FlagVocabulary 16 where
  title := "MethodBodyFlags"
  flags := [⟨"TINY_FORMAT", 0x2⟩, ⟨"FAT_FORMAT", 0x3⟩, ⟨"MORE_SECTS", 0x8⟩,
    ⟨"INIT_LOCALS", 0x10⟩]

/-- The flag bits of a body header. -/
abbrev BodyFlags := FlagSet bodyFlagVocabulary

namespace BodyFlags

/-- The tiny format. -/
def tinyFormat : BodyFlags := ⟨0x2⟩

/-- The fat format. -/
def fatFormat : BodyFlags := ⟨0x3⟩

/-- More data sections follow the code. -/
def moreSections : BodyFlags := ⟨0x8⟩

/-- All local variables start out initialized. -/
def initLocals : BodyFlags := ⟨0x10⟩

/-- **The format bits** of a header's first byte. -/
def formatOf (firstByte : UInt8) : BodyFlags :=
  .truncate (BitVec.ofNat 16 (firstByte &&& 3).toNat)

end BodyFlags

/-- The two header formats. -/
inductive HeaderFormat where
  /-- One byte: the format and the code size. -/
  | tiny
  /-- Twelve bytes or more. -/
  | fat
  deriving Repr, DecidableEq

/-- The format that a first byte announces, if it announces one. -/
def HeaderFormat.ofFirstByte? (firstByte : UInt8) : Option HeaderFormat :=
  let format := BodyFlags.formatOf firstByte
  if format = BodyFlags.tinyFormat then some .tiny
  else if format = BodyFlags.fatFormat then some .fat
  else none

/-- **The format is the first byte modulo four**: two for tiny, three for
fat. -/
theorem HeaderFormat.ofFirstByte?_eq (firstByte : UInt8) :
    ofFirstByte? firstByte =
      if firstByte.toNat % 4 = 2 then some .tiny
      else if firstByte.toNat % 4 = 3 then some .fat
      else none := by
  -- every byte is one of 256, and each of them can be computed
  have table : ∀ n : Fin 256,
      ofFirstByte? (UInt8.ofNat n) =
        if n.val % 4 = 2 then some .tiny else if n.val % 4 = 3 then some .fat else none := by
    decide +kernel
  have h := table ⟨firstByte.toNat, firstByte.toNat_lt⟩
  rw [UInt8.ofNat_toNat] at h
  exact h

end MethodListing
