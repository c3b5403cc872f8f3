/-
  MethodListing.Method.BodyHeader — THE HEADER IN FRONT OF A METHOD'S CODE.

  A TINY header is one byte: the format in its low two bits, the code size in
  the six others.  A FAT header starts with twelve fixed bytes, all numbers
  little-endian:

      bytes 0–1    flags in the low 12 bits, header size / 4 in the high 4
      bytes 2–3    maximum stack depth
      bytes 4–7    code size
      bytes 8–11   token of the local variable signature, zero for none

  The header may be longer than that; the code follows it.  Only the header
  is decoded, but both header and code have to be there in full.

  The order of the checks decides which error is reported when several apply:
  no bytes, unknown format, fewer than twelve bytes, header size too small,
  code beyond the end.

  There is one decoder, `decodeWith`, and it is given the reads it makes.
  `decode` is that decoder over the bounds-checked reads of `Bytes.Cursor`.

  Main results:
    * `decodeTiny_eq`        — what is decoded from one byte is a tiny header;
    * `readFirst_byte`       — the first byte is always there to be read;
    * `FatFields.read_eq_ok` — and so are the fields of twelve bytes or more.
-/
import MethodListing.Bytes.Cursor
import MethodListing.Method.BodyFlags
import MethodListing.Token

namespace MethodListing

/-- What the header says about a method's body. -/
structure BodyHeader where
  /-- Bytes of code, header not counted. -/
  codeSize : Nat
  /-- Bytes of header. -/
  headerSize : Nat
  /-- The signature of the local variables; null for none. -/
  localVarSig : Token
  /-- The deepest the operand stack gets. -/
  maxStack : Nat
  /-- Whether the header is fat. -/
  isFat : Bool
  /-- Whether all local variables start out initialized. -/
  initLocals : Bool
  /-- Whether more data sections follow the code. -/
  moreSections : Bool
  deriving Repr, DecidableEq

namespace BodyHeader

/-- **The tiny header** over `codeSize` bytes of code.  A tiny header has no
room for more, so the stack depth is the eight items it always stands for. -/
def ofCodeSize (codeSize : Nat) : BodyHeader where
  codeSize := codeSize
  headerSize := 1
  localVarSig := .null
  maxStack := 8
  isFat := false
  initLocals := false
  moreSections := false

/-- Bytes of header and code together. -/
def size (header : BodyHeader) : Nat := header.codeSize + header.headerSize

/-- A way to read: the number at an offset, and the offset behind it. -/
abbrev Reader := Width → List UInt8 → Nat → Except DecodeError (Nat × Nat)

/-! ## §1. Tiny headers. -/

/-- Decode a tiny header from its one byte; the data starts with that byte. -/
def decodeTiny (firstByte : UInt8) (data : List UInt8) : Except DecodeError BodyHeader :=
  let codeSize := (firstByte >>> 2).toNat
  if codeSize + 1 > data.length then .error .outOfBounds
  else .ok {
    codeSize := codeSize
    headerSize := 1
    localVarSig := .null
    maxStack := 8
    isFat := false
    initLocals := false
    moreSections := false }

/-- **What is decoded is the tiny header** over the code size in the byte. -/
theorem decodeTiny_eq (firstByte : UInt8) (data : List UInt8) :
    decodeTiny firstByte data =
      if (firstByte >>> 2).toNat + 1 > data.length then .error .outOfBounds
      else .ok (ofCodeSize (firstByte >>> 2).toNat) := rfl

/-! ## §2. Fat headers. -/

/-- The fixed part of a fat header, as it stands in the bytes. -/
structure FatFields where
  /-- Flags and header size. -/
  lead : Nat
  /-- Maximum stack depth. -/
  maxStack : Nat
  /-- Code size. -/
  codeSize : Nat
  /-- Raw token of the local variable signature. -/
  localVarSig : Nat
  deriving Repr, DecidableEq

/-- The number of bytes of the fixed part. -/
def fatFieldsSize : Nat := 12

/-- Read the fixed part through a reader, one field after the other. -/
def FatFields.readWith (read : Reader) (data : List UInt8) : Except DecodeError FatFields := do
  let (lead, offset) ← read .half data 0
  let (maxStack, offset) ← read .half data offset
  let (codeSize, offset) ← read .word data offset
  let (localVarSig, _) ← read .word data offset
  return ⟨lead, maxStack, codeSize, localVarSig⟩

/-- Read the fixed part with bounds-checked reads. -/
def FatFields.read (data : List UInt8) : Except DecodeError FatFields :=
  FatFields.readWith readAt data

/-- The bytes of header that the fixed part declares. -/
def FatFields.headerSize (fields : FatFields) : Nat := (fields.lead >>> 12) * 4

/-- The named flags of the fixed part. -/
def FatFields.flags (fields : FatFields) : BodyFlags :=
  .truncate (BitVec.ofNat 16 (fields.lead &&& 0x0FFF))

/-- The header that the fixed part describes. -/
def FatFields.header (fields : FatFields) : BodyHeader where
  codeSize := fields.codeSize
  headerSize := fields.headerSize
  localVarSig := ⟨UInt32.ofNat fields.localVarSig⟩
  maxStack := fields.maxStack
  isFat := true
  initLocals := fields.flags.contains BodyFlags.initLocals
  moreSections := fields.flags.contains BodyFlags.moreSections

/-- Check the fixed part against itself and against the number of bytes. -/
def FatFields.check (fields : FatFields) (available : Nat) : Except DecodeError BodyHeader :=
  if fields.headerSize < fatFieldsSize then
    .error (.malformed (.shortHeader fields.headerSize))
  else if available < fields.codeSize + fields.headerSize then .error .outOfBounds
  else .ok fields.header

/-- Decode a fat header through a reader; the data starts with it. -/
def decodeFatWith (read : Reader) (data : List UInt8) : Except DecodeError BodyHeader :=
  if data.length < fatFieldsSize then .error .outOfBounds
  else do
    let fields ← FatFields.readWith read data
    fields.check data.length

/-- **Twelve bytes hold all fields**, so none of the reads can fail. -/
theorem FatFields.read_eq_ok {data : List UInt8} (h : fatFieldsSize ≤ data.length) :
    FatFields.read data =
      .ok ⟨LittleEndian.decode (data.take 2), LittleEndian.decode ((data.drop 2).take 2),
        LittleEndian.decode ((data.drop 4).take 4),
        LittleEndian.decode ((data.drop 8).take 4)⟩ := by
  have hlen : 12 ≤ data.length := h
  -- the four reads follow each other: offsets 0, 2, 4 and 8
  have lead := readAt_eq_ok (show 0 + Width.half.bytes < UInt64.size by decide)
    (show 0 + 2 ≤ data.length by omega)
  have stack := readAt_eq_ok (show 2 + Width.half.bytes < UInt64.size by decide)
    (show 2 + 2 ≤ data.length by omega)
  have code := readAt_eq_ok (show 4 + Width.word.bytes < UInt64.size by decide)
    (show 4 + 4 ≤ data.length by omega)
  have sig := readAt_eq_ok (show 8 + Width.word.bytes < UInt64.size by decide)
    (show 8 + 4 ≤ data.length by omega)
  simp only [Width.bytes, List.drop_zero, Nat.zero_add] at lead stack code sig
  simp only [FatFields.read, FatFields.readWith, lead, stack, code, sig, bind, Except.bind, pure,
    Except.pure]

/-! ## §3. Either. -/

/-- **Decode through a reader**: every read of the decoder goes to it. -/
def decodeWith (read : Reader) (data : List UInt8) : Except DecodeError BodyHeader :=
  if data.isEmpty then .error (.malformed .noBytes)
  else do
    let first ← (read .byte data 0).map (·.1)
    let firstByte := UInt8.ofNat first
    match HeaderFormat.ofFirstByte? firstByte with
    | some .tiny => decodeTiny firstByte data
    | some .fat => decodeFatWith read data
    | none => .error (.malformed (.unknownFormat firstByte))

/-- **Decode the header that the data starts with.** -/
def decode (data : List UInt8) : Except DecodeError BodyHeader := decodeWith readAt data

theorem readFirst_byte (firstByte : UInt8) (rest : List UInt8) :
    readFirst .byte (firstByte :: rest) = .ok firstByte.toNat := by
  have h : 0 + Width.byte.bytes ≤ (firstByte :: rest).length := by simp [Width.bytes]
  rw [readFirst, readAt_eq_ok (by decide) h]
  simp [Width.bytes, LittleEndian.decode, Except.map]

end BodyHeader

end MethodListing
