/-
  MethodListing.Method.HeaderLayout — HOW BODY HEADERS ARE LAID OUT.

  The byte layouts that `BodyHeader.decode` reads, written down the other way
  round: from the parts of a header to its bytes.  A layout has everything
  that can be chosen, also what a decoded header does not show: the unnamed
  flag bits, bytes between the fixed part and the code, the code itself, and
  whatever follows it.

  Main results:
    * `TinyLayout.length_bytes`, `FatLayout.length_bytes` — the bytes are
      those of header and code together, and the trailing ones.
-/
import MethodListing.Method.BodyHeader

namespace MethodListing

/-! ## §1. Tiny headers. -/

/-- A tiny header and what follows it. -/
structure TinyLayout where
  /-- The code. -/
  code : List UInt8
  /-- Bytes behind the code. -/
  trailing : List UInt8

namespace TinyLayout

/-- The code size has six bits. -/
def Valid (l : TinyLayout) : Prop := l.code.length < 64

/-- The bytes of a tiny header and what follows it. -/
def bytes (l : TinyLayout) : List UInt8 :=
  UInt8.ofNat (2 + 4 * l.code.length) :: l.code ++ l.trailing

/-- What the header says. -/
def header (l : TinyLayout) : BodyHeader := .ofCodeSize l.code.length

theorem length_bytes (l : TinyLayout) :
    l.bytes.length = l.header.size + l.trailing.length := by
  simp only [bytes, header, BodyHeader.size, BodyHeader.ofCodeSize, List.cons_append,
    List.length_cons, List.length_append]
  omega

end TinyLayout

/-! ## §2. Fat headers. -/

/-- A fat header and what follows it. -/
structure FatLayout where
  /-- The size of the header in units of four bytes. -/
  headerWords : Nat
  /-- Whether more data sections follow the code. -/
  moreSections : Bool
  /-- Whether all local variables start out initialized. -/
  initLocals : Bool
  /-- The unnamed flag bits. -/
  reserved : Nat
  /-- Maximum stack depth. -/
  maxStack : Nat
  /-- The signature of the local variables. -/
  localVarSig : Token
  /-- Bytes between the fixed part and the code. -/
  extra : List UInt8
  /-- The code. -/
  code : List UInt8
  /-- Bytes behind the code. -/
  trailing : List UInt8

namespace FatLayout

/-- The flag bits that no name covers. -/
def reservedMask : Nat := 0x0FE4

/-- Every part fits its place: the header has room for its fixed part and for
the extra bytes exactly, and the numbers fit their fields. -/
structure Valid (l : FatLayout) : Prop where
  /-- Room for the fixed part. -/
  three_le : 3 ≤ l.headerWords
  /-- Four bits. -/
  le_fifteen : l.headerWords ≤ 15
  /-- Unnamed bits only. -/
  reserved_eq : l.reserved &&& reservedMask = l.reserved
  /-- Sixteen bits. -/
  maxStack_lt : l.maxStack < 0x10000
  /-- The extra bytes fill the header. -/
  length_extra : l.extra.length + BodyHeader.fatFieldsSize = 4 * l.headerWords
  /-- Thirty-two bits. -/
  length_code_lt : l.code.length < 0x100000000

/-- Flags and header size in one number. -/
def lead (l : FatLayout) : Nat :=
  3 + 8 * l.moreSections.toNat + 16 * l.initLocals.toNat + l.reserved + 4096 * l.headerWords

/-- The fixed part. -/
def fixedPart (l : FatLayout) : List UInt8 :=
  LittleEndian.encode 2 l.lead ++ LittleEndian.encode 2 l.maxStack
    ++ LittleEndian.encode 4 l.code.length ++ LittleEndian.encode 4 l.localVarSig.value.toNat

/-- The bytes of a fat header and what follows it. -/
def bytes (l : FatLayout) : List UInt8 := l.fixedPart ++ l.extra ++ l.code ++ l.trailing

/-- What the header says. -/
def header (l : FatLayout) : BodyHeader where
  codeSize := l.code.length
  headerSize := 4 * l.headerWords
  localVarSig := l.localVarSig
  maxStack := l.maxStack
  isFat := true
  initLocals := l.initLocals
  moreSections := l.moreSections

@[simp] theorem length_fixedPart (l : FatLayout) :
    l.fixedPart.length = BodyHeader.fatFieldsSize := by
  simp [fixedPart, BodyHeader.fatFieldsSize]

theorem length_bytes {l : FatLayout} (h : l.Valid) :
    l.bytes.length = l.header.size + l.trailing.length := by
  have hextra := h.length_extra
  simp only [bytes, header, BodyHeader.size, List.length_append, length_fixedPart]
  omega

end FatLayout

/-! ## §3. Either. -/

/-- A header of either format and what follows it. -/
inductive HeaderLayout where
  | tiny (l : TinyLayout)
  | fat (l : FatLayout)

namespace HeaderLayout

/-- Every part fits its place. -/
def Valid : HeaderLayout → Prop
  | .tiny l => l.Valid
  | .fat l => l.Valid

/-- The bytes of the header and what follows it. -/
def bytes : HeaderLayout → List UInt8
  | .tiny l => l.bytes
  | .fat l => l.bytes

/-- What the header says. -/
def header : HeaderLayout → BodyHeader
  | .tiny l => l.header
  | .fat l => l.header

end HeaderLayout

end MethodListing
