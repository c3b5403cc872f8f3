/-
  MethodListing.Method.HeaderVerdict — WHICH BYTES START WITH A HEADER.

  Whether bytes start with a header follows from very little of them: how
  many there are, the format in the first byte, and in a fat header the high
  half of the second byte and the code size.  `WellFormed` and `Refused` say
  it without reading or decoding anything.

  Bytes can be wrong in several ways at once.  Only the first of them counts,
  in this order: no bytes, unknown format, too few bytes for the fixed part,
  header too short for its fixed part, code beyond the end.  So every
  constructor of `Refused` denies the ones before it.

  The decoder can be given other reads than the bounds-checked ones.  The last
  section says which of them count as right.
-/
import MethodListing.Method.BodyHeader

namespace MethodListing.BodyHeader

/-! ## §1. What a fat header declares. -/

/-- The size of a fat header in units of four bytes; it stands in the high
half of the second byte. -/
def declaredWords (data : List UInt8) : Nat := (data.getD 1 0).toNat / 16

/-- The code size that a fat header declares, in bytes 4 to 7. -/
def declaredCode (data : List UInt8) : Nat := LittleEndian.decode ((data.drop 4).take 4)

/-! ## §2. The two verdicts. -/

/-- **Well-formed bytes**: they start with a header, and both the header and
its code are there in full. -/
inductive WellFormed : List UInt8 → Prop where
  | tiny {firstByte : UInt8} {rest : List UInt8}
      (format : firstByte.toNat % 4 = 2)
      (complete : 1 + firstByte.toNat / 4 ≤ (firstByte :: rest).length) :
      WellFormed (firstByte :: rest)
  | fat {firstByte : UInt8} {rest : List UInt8}
      (format : firstByte.toNat % 4 = 3)
      (fixed : 12 ≤ (firstByte :: rest).length)
      (room : 3 ≤ declaredWords (firstByte :: rest))
      (complete : 4 * declaredWords (firstByte :: rest) + declaredCode (firstByte :: rest)
        ≤ (firstByte :: rest).length) :
      WellFormed (firstByte :: rest)

/-- **Refused bytes**, with the error that is reported. -/
inductive Refused : List UInt8 → DecodeError → Prop where
  | noBytes : Refused [] (.malformed .noBytes)
  | unknownFormat {firstByte : UInt8} {rest : List UInt8}
      (format : firstByte.toNat % 4 = 0 ∨ firstByte.toNat % 4 = 1) :
      Refused (firstByte :: rest) (.malformed (.unknownFormat firstByte))
  | tinyCut {firstByte : UInt8} {rest : List UInt8}
      (format : firstByte.toNat % 4 = 2)
      (cut : (firstByte :: rest).length < 1 + firstByte.toNat / 4) :
      Refused (firstByte :: rest) .outOfBounds
  | fatCut {firstByte : UInt8} {rest : List UInt8}
      (format : firstByte.toNat % 4 = 3)
      (cut : (firstByte :: rest).length < 12) :
      Refused (firstByte :: rest) .outOfBounds
  | shortHeader {firstByte : UInt8} {rest : List UInt8}
      (format : firstByte.toNat % 4 = 3)
      (fixed : 12 ≤ (firstByte :: rest).length)
      (short : declaredWords (firstByte :: rest) < 3) :
      Refused (firstByte :: rest)
        (.malformed (.shortHeader (4 * declaredWords (firstByte :: rest))))
  | codeCut {firstByte : UInt8} {rest : List UInt8}
      (format : firstByte.toNat % 4 = 3)
      (fixed : 12 ≤ (firstByte :: rest).length)
      (room : 3 ≤ declaredWords (firstByte :: rest))
      (cut : (firstByte :: rest).length
        < 4 * declaredWords (firstByte :: rest) + declaredCode (firstByte :: rest)) :
      Refused (firstByte :: rest) .outOfBounds

/-! ## §3. Readers. -/

/-- The reader gives what a bounds-checked read gives, where that gives
anything.  Where a bounds-checked read fails it may do as it likes. -/
def Reader.Agrees (read : Reader) : Prop :=
  ∀ (width : Width) (data : List UInt8) (offset : Nat) (result : Nat × Nat),
    readAt width data offset = .ok result → read width data offset = .ok result

end MethodListing.BodyHeader
