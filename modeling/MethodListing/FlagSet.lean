/-
  MethodListing.FlagSet — NAMED BITS.

  A vocabulary gives names to some bits of a fixed-width word; a flag set is
  any word read through a vocabulary.  Bits without a name are kept by every
  operation except `truncate` and `complement`, which stay inside the
  vocabulary.  A name may cover several bits, and names may overlap.
-/
import MethodListing.Text.Hex

namespace MethodListing

/-- One name of a vocabulary and the bits it stands for. -/
structure Flag (width : Nat) where
  /-- The name shown. -/
  name : String
  /-- All the bits it needs. -/
  bits : BitVec width

/-- The names that a kind of flag word uses, in the order they are listed. -/
structure FlagVocabulary (width : Nat) where
  /-- What a described flag set starts with. -/
  title : String
  /-- The named flags. -/
  flags : List (Flag width)

/-- Every bit that some name of the vocabulary stands for. -/
def FlagVocabulary.named {width : Nat} (v : FlagVocabulary width) : BitVec width :=
  v.flags.foldl (fun bits flag => bits ||| flag.bits) 0

/-- A word read through the vocabulary `v`. -/
structure FlagSet {width : Nat} (v : FlagVocabulary width) where
  /-- The word, named bits and others alike. -/
  bits : BitVec width
  deriving Repr, DecidableEq

namespace FlagSet

variable {width : Nat} {v : FlagVocabulary width}

/-! ## §1. Making flag sets. -/

/-- No bit at all. -/
def empty : FlagSet v := ⟨0⟩

instance : Inhabited (FlagSet v) := ⟨empty⟩

/-- All named bits. -/
def all : FlagSet v := ⟨v.named⟩

/-- The word with its unnamed bits removed. -/
def truncate (bits : BitVec width) : FlagSet v := ⟨bits &&& v.named⟩

/-- The word itself, provided that all its bits are named. -/
def ofBits? (bits : BitVec width) : Option (FlagSet v) :=
  if bits &&& v.named = bits then some ⟨bits⟩ else none

/-! ## §2. Asking. -/

/-- Whether no bit is set. -/
def isEmpty (a : FlagSet v) : Bool := a.bits == 0

/-- Whether every bit of `b` is in `a`. -/
def contains (a b : FlagSet v) : Bool := a.bits &&& b.bits == b.bits

/-- Whether some bit is in both. -/
def intersects (a b : FlagSet v) : Bool := a.bits &&& b.bits != 0

/-- Whether every named bit is set. -/
def isAll (a : FlagSet v) : Bool := a.contains all

/-! ## §3. Combining. -/

/-- The bits of either. -/
def union (a b : FlagSet v) : FlagSet v := ⟨a.bits ||| b.bits⟩

/-- The bits of both. -/
def inter (a b : FlagSet v) : FlagSet v := ⟨a.bits &&& b.bits⟩

/-- The bits of `a` that are not in `b`. -/
def diff (a b : FlagSet v) : FlagSet v := ⟨a.bits &&& ~~~b.bits⟩

/-- The bits of exactly one of the two. -/
def symmDiff (a b : FlagSet v) : FlagSet v := ⟨a.bits ^^^ b.bits⟩

/-- The named bits that `a` lacks. -/
def complement (a : FlagSet v) : FlagSet v := truncate (~~~a.bits)

instance : Union (FlagSet v) := ⟨union⟩
instance : Inter (FlagSet v) := ⟨inter⟩
instance : SDiff (FlagSet v) := ⟨diff⟩

/-! ## §4. Names. -/

/-- Go through `flags`, listing each one that lies inside `whole` and still
has a bit in `rest`; what is listed is taken out of `rest`. -/
def namesFrom (whole : BitVec width) :
    List (Flag width) → BitVec width → List (Flag width) × BitVec width
  | [], rest => ([], rest)
  | flag :: flags, rest =>
      if whole &&& flag.bits = flag.bits ∧ rest &&& flag.bits ≠ 0 then
        let (names, unnamed) := namesFrom whole flags (rest &&& ~~~flag.bits)
        (flag :: names, unnamed)
      else namesFrom whole flags rest

/-- **The named flags of a set**, and the bits they leave over. -/
def names (a : FlagSet v) : List (Flag width) × BitVec width :=
  namesFrom a.bits v.flags a.bits

/-- The parts that a described set shows: its names, then the bits left over
as a number, unless they are zero. -/
def parts (a : FlagSet v) : List String :=
  let (flags, unnamed) := a.names
  flags.map (·.name) ++ if unnamed = 0 then [] else [Hex.shortLiteral unnamed.toNat]

/-- **The set spelled out**: the title, then its parts between bars; the
number zero stands for the empty set. -/
def describe (a : FlagSet v) : String :=
  let inside := if a.isEmpty then Hex.shortLiteral 0 else String.intercalate " | " a.parts
  v.title ++ "(" ++ inside ++ ")"

end FlagSet

end MethodListing
