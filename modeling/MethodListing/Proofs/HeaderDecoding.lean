/-
  MethodListing.Proofs.HeaderDecoding — WHAT DECODING A BODY HEADER COMES TO.

  The decoder asks for its bytes through bounds-checked reads and finds its
  flags by masking.  Here both are gone: the reads never fail where they are
  made, and a named flag is one bit of the first two bytes.  What is left is
  one equation for each format, with nothing but arithmetic in it.

  Main results:
    * `FlagSet.contains_truncate` — a named bit survives truncation;
    * `BodyHeader.FatFields.initLocals_eq`, `moreSections_eq` — the two flags
      of a fat header as bits of its first number;
    * `BodyHeader.decode_cons_tiny`, `decode_cons_fat`, `decode_cons_unknown`
      — decoding, format by format.
-/
import MethodListing.Method.BodyHeader

namespace MethodListing

/-! ## §1. Flags. -/

/-- **A named bit survives truncation**: a flag of one bit is in the truncated
word exactly if the word has the bit. -/
theorem FlagSet.contains_truncate {width : Nat} {v : FlagVocabulary width} {i : Nat}
    (hnamed : v.named.getLsbD i = true) (bits : BitVec width) :
    (truncate bits : FlagSet v).contains ⟨BitVec.twoPow width i⟩ = bits.getLsbD i := by
  have hi : i < width := BitVec.lt_of_getLsbD hnamed
  have hne : BitVec.twoPow width i ≠ (0 : BitVec width) := by
    intro h
    have hbit := congrArg (fun word => word.getLsbD i) h
    simp [hi] at hbit
  show (bits &&& v.named &&& BitVec.twoPow width i == BitVec.twoPow width i) = _
  rw [BitVec.and_twoPow, BitVec.getLsbD_and, hnamed, Bool.and_true]
  -- with the bit the mask is left over, without it nothing, which is not the mask
  cases hb : bits.getLsbD i with
  | true => simp
  | false => simpa using Ne.symm hne

namespace BodyHeader

/-- The low twelve bits of a number keep their places in a flag word. -/
theorem getLsbD_flagBits (n : Nat) {i : Nat} (hi : i < 12) :
    (BitVec.ofNat 16 (n &&& 0x0FFF)).getLsbD i = n.testBit i := by
  have hmask : (0x0FFF : Nat) = 2 ^ 12 - 1 := rfl
  have hi16 : i < 16 := by omega
  rw [BitVec.getLsbD_ofNat, hmask, Nat.testBit_and, Nat.testBit_two_pow_sub_one]
  simp [hi, hi16]

theorem FatFields.initLocals_eq (fields : FatFields) :
    fields.flags.contains BodyFlags.initLocals = fields.lead.testBit 4 := by
  rw [← getLsbD_flagBits fields.lead (show 4 < 12 by decide)]
  exact FlagSet.contains_truncate (show bodyFlagVocabulary.named.getLsbD 4 = true by decide) _

theorem FatFields.moreSections_eq (fields : FatFields) :
    fields.flags.contains BodyFlags.moreSections = fields.lead.testBit 3 := by
  rw [← getLsbD_flagBits fields.lead (show 3 < 12 by decide)]
  exact FlagSet.contains_truncate (show bodyFlagVocabulary.named.getLsbD 3 = true by decide) _

/-! ## §2. The fixed part. -/

/-- The fixed part, cut out of the bytes at its offsets. -/
def FatFields.ofBytes (data : List UInt8) : FatFields where
  lead := LittleEndian.decode (data.take 2)
  maxStack := LittleEndian.decode ((data.drop 2).take 2)
  codeSize := LittleEndian.decode ((data.drop 4).take 4)
  localVarSig := LittleEndian.decode ((data.drop 8).take 4)

theorem FatFields.headerSize_eq (fields : FatFields) :
    fields.headerSize = 4 * (fields.lead / 4096) := by
  rw [headerSize, Nat.shiftRight_eq_div_pow, Nat.mul_comm]

theorem FatFields.check_eq_ok_iff {fields : FatFields} {available : Nat} {header : BodyHeader} :
    fields.check available = .ok header
      ↔ fatFieldsSize ≤ fields.headerSize ∧ fields.codeSize + fields.headerSize ≤ available
        ∧ header = fields.header := by
  unfold FatFields.check
  split
  · simp; omega
  · split
    · simp; omega
    · simp only [Except.ok.injEq]
      constructor
      · intro h
        exact ⟨by omega, by omega, h.symm⟩
      · intro h
        exact h.2.2.symm

/-! ## §3. Decoding, format by format. -/

/-- Through a reader that gives the first byte, the format decides. -/
theorem decodeWith_cons {read : Reader} {firstByte : UInt8} {rest : List UInt8}
    (hfirst : (read .byte (firstByte :: rest) 0).map (·.1) = .ok firstByte.toNat) :
    decodeWith read (firstByte :: rest) =
      match HeaderFormat.ofFirstByte? firstByte with
      | some .tiny => decodeTiny firstByte (firstByte :: rest)
      | some .fat => decodeFatWith read (firstByte :: rest)
      | none => .error (.malformed (.unknownFormat firstByte)) := by
  show ((read .byte (firstByte :: rest) 0).map (·.1) >>= _) = _
  rw [hfirst]
  show (match HeaderFormat.ofFirstByte? (UInt8.ofNat firstByte.toNat) with
    | some .tiny => _ | some .fat => _ | none => _) = _
  rw [UInt8.ofNat_toNat]

theorem decode_cons (firstByte : UInt8) (rest : List UInt8) :
    decode (firstByte :: rest) =
      match HeaderFormat.ofFirstByte? firstByte with
      | some .tiny => decodeTiny firstByte (firstByte :: rest)
      | some .fat => decodeFatWith readAt (firstByte :: rest)
      | none => .error (.malformed (.unknownFormat firstByte)) :=
  decodeWith_cons (readFirst_byte firstByte rest)

/-- **A tiny header** is there in full if its code is. -/
theorem decode_cons_tiny {firstByte : UInt8} (h : firstByte.toNat % 4 = 2) (rest : List UInt8) :
    decode (firstByte :: rest) =
      if rest.length < firstByte.toNat / 4 then .error .outOfBounds
      else .ok (ofCodeSize (firstByte.toNat / 4)) := by
  have hshift : (firstByte >>> 2).toNat = firstByte.toNat / 4 := by
    rw [UInt8.toNat_shiftRight]
    exact Nat.shiftRight_eq_div_pow _ 2
  rw [decode_cons, HeaderFormat.ofFirstByte?_eq, if_pos h]
  show decodeTiny _ _ = _
  simp only [decodeTiny_eq, hshift, List.length_cons, gt_iff_lt, Nat.add_lt_add_iff_right]

/-- **A fat header** has its twelve bytes to begin with; the rest is checked
against what they say. -/
theorem decode_cons_fat {firstByte : UInt8} (h : firstByte.toNat % 4 = 3) (rest : List UInt8) :
    decode (firstByte :: rest) =
      if (firstByte :: rest).length < fatFieldsSize then .error .outOfBounds
      else (FatFields.ofBytes (firstByte :: rest)).check (firstByte :: rest).length := by
  have htiny : ¬ firstByte.toNat % 4 = 2 := by omega
  rw [decode_cons, HeaderFormat.ofFirstByte?_eq, if_neg htiny, if_pos h]
  show decodeFatWith readAt _ = _
  unfold decodeFatWith
  split
  · rfl
  · next hlen =>
    -- with twelve bytes at hand none of the reads can fail
    show (FatFields.read _ >>= _) = _
    rw [FatFields.read_eq_ok (Nat.le_of_not_lt hlen)]
    rfl

/-- The other two formats are no formats. -/
theorem decode_cons_unknown {firstByte : UInt8} (h : firstByte.toNat % 4 < 2)
    (rest : List UInt8) :
    decode (firstByte :: rest) = .error (.malformed (.unknownFormat firstByte)) := by
  have htiny : ¬ firstByte.toNat % 4 = 2 := by omega
  have hfat : ¬ firstByte.toNat % 4 = 3 := by omega
  rw [decode_cons, HeaderFormat.ofFirstByte?_eq, if_neg htiny, if_neg hfat]

end BodyHeader

end MethodListing
