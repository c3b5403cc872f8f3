/-
  MethodListing.Proofs.HeaderRoundTrip — HEADERS TO BYTES AND BACK.

  A layout is everything that can be chosen about a header and the bytes that
  follow it; its bytes decode to the header it describes.  The other way
  round, accepted bytes are the bytes of one layout only, which can be cut out
  of them: no two layouts look the same, and nothing is accepted that is not
  the bytes of a layout.

  The hard part is the first number of a fat header, where the format, two
  flags, the unnamed bits and the header size share sixteen bits.

  Main results:
    * `FatLayout.Valid.lead_parts`, `FatLayout.lead_of_parts` — that number
      falls apart into its five parts, and is put together from them;
    * `HeaderLayout.Valid.decode_bytes`, `HeaderLayout.Valid.ofBytes_bytes` —
      the bytes of a layout decode to its header, and show the layout;
    * `HeaderLayout.bytes_ofBytes` — accepted bytes come from a layout;
    * `BodyHeader.decode_layout_bytes` — decoding and encoding are inverse.
-/
import Mathlib.Logic.ExistsUnique
import MethodListing.Method.HeaderLayout
import MethodListing.Proofs.HeaderDecoding

namespace MethodListing

/-! ## §1. The number that a fat header starts with. -/

namespace FatLayout

/-- The unnamed bits of a number by arithmetic: all of the low twelve, less
the format and the two named ones. -/
theorem and_reservedMask (n : Nat) :
    n &&& reservedMask = n % 4096 - n % 4 - 8 * (n / 8 % 4) := by
  -- only twelve bits matter, and those can be tabulated, six by six
  have table : ∀ high low : Fin 64,
      (64 * high.val + low.val) &&& reservedMask
        = 64 * high.val + low.val - low.val % 4 - 8 * (low.val / 8 % 4) := by
    decide +kernel
  have htwelve : n &&& reservedMask = n % 4096 &&& reservedMask := by
    have hmod : n &&& reservedMask = (n &&& reservedMask) % 2 ^ 12 :=
      (Nat.mod_eq_of_lt (Nat.and_lt_two_pow n (by decide))).symm
    rw [hmod, Nat.and_mod_two_pow]
    rfl
  have hsplit : n % 4096 = 64 * (n / 64 % 64) + n % 64 := by omega
  have h := table ⟨n / 64 % 64, Nat.mod_lt _ (by decide)⟩ ⟨n % 64, Nat.mod_lt _ (by decide)⟩
  simp only at h
  rw [htwelve, hsplit, h]
  omega

/-- Unnamed bits only: below the header size, no format, neither flag. -/
theorem reserved_eq_iff (n : Nat) :
    n &&& reservedMask = n ↔ n < 4096 ∧ n % 4 = 0 ∧ n / 8 % 4 = 0 := by
  rw [and_reservedMask]
  omega

theorem testBit_eq_of_shiftRight {n i : Nat} {b : Bool} (h : (n >>> i) % 2 = b.toNat) :
    n.testBit i = b := by
  rw [Nat.testBit_eq_decide_div_mod_eq, ← Nat.shiftRight_eq_div_pow, h]
  cases b <;> rfl

/-- **The number falls apart into its five parts.** -/
theorem Valid.lead_parts {l : FatLayout} (h : l.Valid) :
    l.lead % 4 = 3
    ∧ l.lead.testBit 3 = l.moreSections
    ∧ l.lead.testBit 4 = l.initLocals
    ∧ l.lead &&& reservedMask = l.reserved
    ∧ l.lead / 4096 = l.headerWords := by
  have hreserved := (reserved_eq_iff _).1 h.reserved_eq
  have hmore := l.moreSections.toNat_le
  have hinit := l.initLocals.toNat_le
  have hlead : l.lead = 3 + 8 * l.moreSections.toNat + 16 * l.initLocals.toNat + l.reserved
      + 4096 * l.headerWords := rfl
  have hthree : (l.lead >>> 3) % 2 = l.moreSections.toNat := by omega
  have hfour : (l.lead >>> 4) % 2 = l.initLocals.toNat := by omega
  refine ⟨by omega, testBit_eq_of_shiftRight hthree, testBit_eq_of_shiftRight hfour, ?_,
    by omega⟩
  rw [and_reservedMask]
  omega

theorem Valid.lead_lt {l : FatLayout} (h : l.Valid) : l.lead < 65536 := by
  have hreserved := (reserved_eq_iff _).1 h.reserved_eq
  have hwords := h.le_fifteen
  have hmore := l.moreSections.toNat_le
  have hinit := l.initLocals.toNat_le
  unfold lead
  omega

/-- **And any number of the fat format is put together again from them.** -/
theorem lead_of_parts {n : Nat} (hformat : n % 4 = 3) :
    3 + 8 * (n.testBit 3).toNat + 16 * (n.testBit 4).toNat + (n &&& reservedMask)
      + 4096 * (n / 4096) = n := by
  rw [Nat.toNat_testBit, Nat.toNat_testBit, and_reservedMask]
  omega

end FatLayout

/-! ## §2. The fixed part. -/

theorem LittleEndian.encode_decode_of_length_eq {count : Nat} {bytes : List UInt8}
    (h : bytes.length = count) : encode count (decode bytes) = bytes := by
  rw [← h, encode_decode]

theorem LittleEndian.decode_lt_of_length_eq {count : Nat} {bytes : List UInt8}
    (h : bytes.length = count) : decode bytes < capacity count := by
  rw [← h]
  exact decode_lt bytes

namespace BodyHeader.FatFields

/-- The bytes of the fixed part. -/
def bytes (fields : FatFields) : List UInt8 :=
  LittleEndian.encode 2 fields.lead ++ LittleEndian.encode 2 fields.maxStack
    ++ LittleEndian.encode 4 fields.codeSize ++ LittleEndian.encode 4 fields.localVarSig

/-- Every number fits its place. -/
structure Fits (fields : FatFields) : Prop where
  lead_lt : fields.lead < 0x10000
  maxStack_lt : fields.maxStack < 0x10000
  codeSize_lt : fields.codeSize < 0x100000000
  localVarSig_lt : fields.localVarSig < 0x100000000

theorem ofBytes_append {a b c d : List UInt8} (ha : a.length = 2) (hb : b.length = 2)
    (hc : c.length = 4) (hd : d.length = 4) (rest : List UInt8) :
    ofBytes (a ++ b ++ c ++ d ++ rest)
      = ⟨LittleEndian.decode a, LittleEndian.decode b, LittleEndian.decode c,
          LittleEndian.decode d⟩ := by
  have ha4 : a.drop 4 = [] := List.drop_eq_nil_of_le (by omega)
  have ha8 : a.drop 8 = [] := List.drop_eq_nil_of_le (by omega)
  have hb6 : b.drop 6 = [] := List.drop_eq_nil_of_le (by omega)
  simp [ofBytes, List.drop_append, ha, hb, hc, hd, ha4, ha8, hb6]

/-- Twelve bytes are four fields. -/
theorem exists_append {data : List UInt8} (h : fatFieldsSize ≤ data.length) :
    ∃ a b c d : List UInt8, a.length = 2 ∧ b.length = 2 ∧ c.length = 4 ∧ d.length = 4
      ∧ data = a ++ b ++ c ++ d ++ data.drop fatFieldsSize := by
  have hlen : 12 ≤ data.length := h
  refine ⟨data.take 2, (data.drop 2).take 2, (data.drop 4).take 4, (data.drop 8).take 4,
    ?_, ?_, ?_, ?_, ?_⟩
  · simp only [List.length_take]
    omega
  · simp only [List.length_take, List.length_drop]
    omega
  · simp only [List.length_take, List.length_drop]
    omega
  · simp only [List.length_take, List.length_drop]
    omega
  · -- pieces that follow each other are one longer piece
    show _ = _ ++ data.drop 12
    rw [← List.take_add, ← List.take_add, ← List.take_add, List.take_append_drop]

/-- The fields can be read back from their bytes. -/
theorem Fits.ofBytes_bytes {fields : FatFields} (h : fields.Fits) (rest : List UInt8) :
    ofBytes (fields.bytes ++ rest) = fields := by
  unfold bytes
  rw [ofBytes_append (LittleEndian.length_encode _ _) (LittleEndian.length_encode _ _)
      (LittleEndian.length_encode _ _) (LittleEndian.length_encode _ _),
    LittleEndian.decode_encode 2 _ h.lead_lt, LittleEndian.decode_encode 2 _ h.maxStack_lt,
    LittleEndian.decode_encode 4 _ h.codeSize_lt, LittleEndian.decode_encode 4 _ h.localVarSig_lt]

/-- And twelve bytes are the bytes of the fields that they hold. -/
theorem bytes_ofBytes {data : List UInt8} (h : fatFieldsSize ≤ data.length) :
    (ofBytes data).bytes ++ data.drop fatFieldsSize = data := by
  obtain ⟨a, b, c, d, ha, hb, hc, hd, hdata⟩ := exists_append h
  have hfields := ofBytes_append ha hb hc hd (data.drop fatFieldsSize)
  rw [← hdata] at hfields
  rw [hfields, bytes, LittleEndian.encode_decode_of_length_eq ha,
    LittleEndian.encode_decode_of_length_eq hb, LittleEndian.encode_decode_of_length_eq hc,
    LittleEndian.encode_decode_of_length_eq hd]
  exact hdata.symm

theorem fits_ofBytes {data : List UInt8} (h : fatFieldsSize ≤ data.length) :
    (ofBytes data).Fits := by
  obtain ⟨a, b, c, d, ha, hb, hc, hd, hdata⟩ := exists_append h
  have hfields := ofBytes_append ha hb hc hd (data.drop fatFieldsSize)
  rw [← hdata] at hfields
  rw [hfields]
  exact ⟨LittleEndian.decode_lt_of_length_eq ha, LittleEndian.decode_lt_of_length_eq hb,
    LittleEndian.decode_lt_of_length_eq hc, LittleEndian.decode_lt_of_length_eq hd⟩

end BodyHeader.FatFields

/-! ## §3. Fat layouts. -/

namespace FatLayout

/-- The fields of the fixed part. -/
def fields (l : FatLayout) : BodyHeader.FatFields :=
  ⟨l.lead, l.maxStack, l.code.length, l.localVarSig.value.toNat⟩

theorem bytes_eq_fields_bytes (l : FatLayout) :
    l.bytes = l.fields.bytes ++ (l.extra ++ l.code ++ l.trailing) := by
  simp only [bytes, List.append_assoc]
  rfl

variable {l : FatLayout}

theorem Valid.fits_fields (h : l.Valid) : l.fields.Fits :=
  ⟨h.lead_lt, h.maxStack_lt, h.length_code_lt, l.localVarSig.value.toNat_lt⟩

theorem Valid.ofBytes_fields (h : l.Valid) : BodyHeader.FatFields.ofBytes l.bytes = l.fields := by
  rw [bytes_eq_fields_bytes, h.fits_fields.ofBytes_bytes]

theorem Valid.headerSize_fields (h : l.Valid) : l.fields.headerSize = 4 * l.headerWords := by
  obtain ⟨-, -, -, -, hwords⟩ := h.lead_parts
  rw [BodyHeader.FatFields.headerSize_eq]
  show 4 * (l.lead / 4096) = _
  rw [hwords]

/-- The fields of a layout describe its header. -/
theorem Valid.header_fields (h : l.Valid) : l.fields.header = l.header := by
  obtain ⟨-, hmore, hinit, -, -⟩ := h.lead_parts
  unfold BodyHeader.FatFields.header
  rw [h.headerSize_fields, BodyHeader.FatFields.initLocals_eq,
    BodyHeader.FatFields.moreSections_eq]
  show BodyHeader.mk _ _ ⟨UInt32.ofNat l.localVarSig.value.toNat⟩ _ _ (l.lead.testBit 4)
    (l.lead.testBit 3) = _
  rw [hmore, hinit, UInt32.ofNat_toNat]
  rfl

/-- **The layout with these fields**, and with everything that stands behind
them. -/
def ofFields (fields : BodyHeader.FatFields) (behind : List UInt8) : FatLayout where
  headerWords := fields.lead / 4096
  moreSections := fields.lead.testBit 3
  initLocals := fields.lead.testBit 4
  reserved := fields.lead &&& reservedMask
  maxStack := fields.maxStack
  localVarSig := ⟨UInt32.ofNat fields.localVarSig⟩
  extra := behind.take (fields.headerSize - BodyHeader.fatFieldsSize)
  code := (behind.drop (fields.headerSize - BodyHeader.fatFieldsSize)).take fields.codeSize
  trailing := (behind.drop (fields.headerSize - BodyHeader.fatFieldsSize)).drop fields.codeSize

/-- A layout is the one with its fields. -/
theorem Valid.ofFields_fields (h : l.Valid) :
    ofFields l.fields (l.extra ++ l.code ++ l.trailing) = l := by
  obtain ⟨-, hmore, hinit, hreserved, hwords⟩ := h.lead_parts
  have hextra : l.fields.headerSize - BodyHeader.fatFieldsSize = l.extra.length := by
    rw [h.headerSize_fields, ← h.length_extra]
    omega
  unfold ofFields
  rw [hextra, List.append_assoc, List.take_left, List.drop_left]
  show FatLayout.mk (l.lead / 4096) (l.lead.testBit 3) (l.lead.testBit 4)
    (l.lead &&& reservedMask) l.maxStack ⟨UInt32.ofNat l.localVarSig.value.toNat⟩ l.extra
    ((l.code ++ l.trailing).take l.code.length) ((l.code ++ l.trailing).drop l.code.length) = l
  -- the lead falls apart as it was put together, and so does what is behind it
  rw [hmore, hinit, hreserved, hwords, UInt32.ofNat_toNat, List.take_left, List.drop_left]

section OfFields

variable {fields : BodyHeader.FatFields} {behind : List UInt8}

theorem length_extra_ofFields
    (h : fields.headerSize ≤ behind.length + BodyHeader.fatFieldsSize) :
    (ofFields fields behind).extra.length = fields.headerSize - BodyHeader.fatFieldsSize := by
  simp only [ofFields, List.length_take]
  omega

theorem length_code_ofFields
    (hfixed : BodyHeader.fatFieldsSize ≤ fields.headerSize)
    (h : fields.codeSize + fields.headerSize ≤ behind.length + BodyHeader.fatFieldsSize) :
    (ofFields fields behind).code.length = fields.codeSize := by
  simp only [ofFields, List.length_take, List.length_drop]
  omega

/-- What stands behind the fields is cut in three, and nothing is lost. -/
theorem append_ofFields :
    (ofFields fields behind).extra ++ (ofFields fields behind).code
      ++ (ofFields fields behind).trailing = behind := by
  simp only [ofFields, List.append_assoc, List.take_append_drop]

/-- The layout with these fields has these fields. -/
theorem fields_ofFields (hfits : fields.Fits) (hformat : fields.lead % 4 = 3)
    (hcode : (ofFields fields behind).code.length = fields.codeSize) :
    (ofFields fields behind).fields = fields := by
  have hsig : (UInt32.ofNat fields.localVarSig).toNat = fields.localVarSig :=
    UInt32.toNat_ofNat_of_lt hfits.localVarSig_lt
  have hlead : (ofFields fields behind).lead = fields.lead := lead_of_parts hformat
  unfold FatLayout.fields
  rw [hlead, hcode]
  show BodyHeader.FatFields.mk _ fields.maxStack _ (UInt32.ofNat fields.localVarSig).toNat = _
  rw [hsig]

theorem valid_ofFields (hfits : fields.Fits)
    (hfixed : BodyHeader.fatFieldsSize ≤ fields.headerSize)
    (h : fields.codeSize + fields.headerSize ≤ behind.length + BodyHeader.fatFieldsSize) :
    (ofFields fields behind).Valid := by
  have hlead := hfits.lead_lt
  have hwords := fields.headerSize_eq
  have hextra : (ofFields fields behind).extra.length
      = fields.headerSize - BodyHeader.fatFieldsSize := length_extra_ofFields (by omega)
  have htwelve : BodyHeader.fatFieldsSize = 12 := rfl
  have hheader : (ofFields fields behind).headerWords = fields.lead / 4096 := rfl
  exact {
    three_le := by omega
    le_fifteen := by omega
    reserved_eq := by
      show fields.lead &&& reservedMask &&& reservedMask = _
      rw [Nat.and_assoc, Nat.and_self]
      rfl
    maxStack_lt := hfits.maxStack_lt
    length_extra := by omega
    length_code_lt := by
      rw [length_code_ofFields hfixed h]
      exact hfits.codeSize_lt }

end OfFields

end FatLayout

/-! ## §4. From layouts to headers. -/

namespace TinyLayout

variable {l : TinyLayout}

theorem Valid.firstByte (h : l.Valid) :
    (UInt8.ofNat (2 + 4 * l.code.length)).toNat = 2 + 4 * l.code.length := by
  have hsize : l.code.length < 64 := h
  exact UInt8.toNat_ofNat_of_lt (by
    show _ < 256
    omega)

theorem Valid.firstByte_div (h : l.Valid) :
    (UInt8.ofNat (2 + 4 * l.code.length)).toNat / 4 = l.code.length := by
  rw [h.firstByte]
  omega

/-- The bytes of a tiny layout decode to its header. -/
theorem Valid.decode_bytes (h : l.Valid) : BodyHeader.decode l.bytes = .ok l.header := by
  have hformat : (UInt8.ofNat (2 + 4 * l.code.length)).toNat % 4 = 2 := by
    rw [h.firstByte]
    omega
  have hroom : ¬ (l.code ++ l.trailing).length < l.code.length := by
    rw [List.length_append]
    omega
  show BodyHeader.decode (UInt8.ofNat (2 + 4 * l.code.length) :: (l.code ++ l.trailing)) = _
  rw [BodyHeader.decode_cons_tiny hformat, h.firstByte_div, if_neg hroom]
  rfl

end TinyLayout

namespace FatLayout

variable {l : FatLayout}

theorem Valid.exists_bytes_eq_cons (h : l.Valid) :
    ∃ firstByte rest, l.bytes = firstByte :: rest ∧ firstByte.toNat % 4 = 3 := by
  obtain ⟨hformat, -, -, -, -⟩ := h.lead_parts
  refine ⟨UInt8.ofNat (l.lead % 256), _, rfl, ?_⟩
  have hbyte : (UInt8.ofNat (l.lead % 256)).toNat = l.lead % 256 := by simp
  rw [hbyte]
  omega

/-- The bytes of a fat layout decode to its header. -/
theorem Valid.decode_bytes (h : l.Valid) : BodyHeader.decode l.bytes = .ok l.header := by
  have hlength := length_bytes h
  have hextra := h.length_extra
  have hsize : l.header.size = l.code.length + 4 * l.headerWords := rfl
  have hroom : ¬ l.bytes.length < BodyHeader.fatFieldsSize := by omega
  obtain ⟨firstByte, rest, hbytes, hformat⟩ := h.exists_bytes_eq_cons
  rw [hbytes, BodyHeader.decode_cons_fat hformat, ← hbytes, if_neg hroom, h.ofBytes_fields,
    BodyHeader.FatFields.check_eq_ok_iff, h.headerSize_fields]
  have hcode : l.fields.codeSize = l.code.length := rfl
  exact ⟨by omega, by omega, h.header_fields.symm⟩

end FatLayout

/-- **The bytes of a layout decode to its header.** -/
theorem HeaderLayout.Valid.decode_bytes {l : HeaderLayout} (h : l.Valid) :
    BodyHeader.decode l.bytes = .ok l.header := by
  cases l with
  | tiny l => exact TinyLayout.Valid.decode_bytes h
  | fat l => exact FatLayout.Valid.decode_bytes h

/-! ## §5. And back. -/

namespace TinyLayout

/-- The layout of a tiny header whose byte is `firstByte`. -/
def ofBytes (firstByte : UInt8) (rest : List UInt8) : TinyLayout where
  code := rest.take (firstByte.toNat / 4)
  trailing := rest.drop (firstByte.toNat / 4)

theorem Valid.ofBytes_bytes {l : TinyLayout} (h : l.Valid) :
    ofBytes (UInt8.ofNat (2 + 4 * l.code.length)) (l.code ++ l.trailing) = l := by
  rw [ofBytes, h.firstByte_div, List.take_left, List.drop_left]

variable {firstByte : UInt8} {rest : List UInt8}

theorem length_code_ofBytes (hroom : ¬ rest.length < firstByte.toNat / 4) :
    (ofBytes firstByte rest).code.length = firstByte.toNat / 4 := by
  simp only [ofBytes, List.length_take]
  omega

theorem valid_ofBytes (hroom : ¬ rest.length < firstByte.toNat / 4) :
    (ofBytes firstByte rest).Valid := by
  have hbyte := firstByte.toNat_lt
  show (ofBytes firstByte rest).code.length < 64
  rw [length_code_ofBytes hroom]
  omega

theorem bytes_ofBytes (hformat : firstByte.toNat % 4 = 2)
    (hroom : ¬ rest.length < firstByte.toNat / 4) :
    (ofBytes firstByte rest).bytes = firstByte :: rest := by
  have hfirst : 2 + 4 * (firstByte.toNat / 4) = firstByte.toNat := by omega
  rw [bytes, length_code_ofBytes hroom, hfirst, UInt8.ofNat_toNat, ofBytes, List.cons_append,
    List.take_append_drop]

end TinyLayout

namespace FatLayout

/-- The layout of a fat header that the bytes start with. -/
def ofBytes (data : List UInt8) : FatLayout :=
  ofFields (.ofBytes data) (data.drop BodyHeader.fatFieldsSize)

theorem Valid.ofBytes_bytes {l : FatLayout} (h : l.Valid) : ofBytes l.bytes = l := by
  have hbehind : l.bytes.drop BodyHeader.fatFieldsSize = l.extra ++ l.code ++ l.trailing := by
    rw [bytes, List.append_assoc, List.append_assoc, List.drop_left' l.length_fixedPart,
      List.append_assoc]
  rw [ofBytes, h.ofBytes_fields, hbehind, h.ofFields_fields]

/-- Twelve bytes that pass the check are those of their layout. -/
theorem bytes_ofBytes {data : List UInt8} {header : BodyHeader}
    (hlen : BodyHeader.fatFieldsSize ≤ data.length)
    (hformat : (BodyHeader.FatFields.ofBytes data).lead % 4 = 3)
    (h : (BodyHeader.FatFields.ofBytes data).check data.length = .ok header) :
    (ofBytes data).Valid ∧ (ofBytes data).bytes = data ∧ (ofBytes data).header = header := by
  obtain ⟨hfixed, hroom, hheader⟩ := BodyHeader.FatFields.check_eq_ok_iff.1 h
  have hfits := BodyHeader.FatFields.fits_ofBytes hlen
  -- the check is about all of the data, the layout about what is behind the fields
  have hdrop : data.length
      = (data.drop BodyHeader.fatFieldsSize).length + BodyHeader.fatFieldsSize := by
    rw [List.length_drop]
    omega
  rw [hdrop] at hroom
  have hvalid : (ofBytes data).Valid := valid_ofFields hfits hfixed hroom
  have hfields : (ofBytes data).fields = .ofBytes data :=
    fields_ofFields hfits hformat (length_code_ofFields hfixed hroom)
  refine ⟨hvalid, ?_, ?_⟩
  · rw [bytes_eq_fields_bytes, hfields, ofBytes, append_ofFields,
      BodyHeader.FatFields.bytes_ofBytes hlen]
  · rw [hheader, ← hvalid.header_fields, hfields]

end FatLayout

namespace HeaderLayout

/-- **The layout that bytes have**, if they have any: fat for the bytes of the
fat format, and all else is taken for tiny. -/
def ofBytes : List UInt8 → HeaderLayout
  | [] => .tiny ⟨[], []⟩
  | firstByte :: rest =>
      if firstByte.toNat % 4 = 3 then .fat (.ofBytes (firstByte :: rest))
      else .tiny (.ofBytes firstByte rest)

/-- **A layout can be cut out of its bytes**, so no two have the same. -/
theorem Valid.ofBytes_bytes {l : HeaderLayout} (h : l.Valid) : ofBytes l.bytes = l := by
  cases l with
  | tiny l =>
      have hvalid : l.Valid := h
      have hformat : ¬ (UInt8.ofNat (2 + 4 * l.code.length)).toNat % 4 = 3 := by
        rw [hvalid.firstByte]
        omega
      show ofBytes (UInt8.ofNat (2 + 4 * l.code.length) :: (l.code ++ l.trailing)) = _
      rw [ofBytes, if_neg hformat, hvalid.ofBytes_bytes]
  | fat l =>
      have hvalid : l.Valid := h
      -- the first byte has to be seen for the format, all of them for the fields
      obtain ⟨firstByte, rest, hbytes, hformat⟩ := hvalid.exists_bytes_eq_cons
      show ofBytes l.bytes = _
      rw [hbytes, ofBytes, if_pos hformat, ← hbytes, hvalid.ofBytes_bytes]

/-- **Accepted bytes are the bytes of the layout that is cut out of them**, and
the header that was decoded is the one of this layout. -/
theorem bytes_ofBytes {data : List UInt8} {header : BodyHeader}
    (h : BodyHeader.decode data = .ok header) :
    (ofBytes data).Valid ∧ (ofBytes data).bytes = data ∧ (ofBytes data).header = header := by
  cases data with
  | nil => cases h
  | cons firstByte rest =>
      by_cases hfat : firstByte.toNat % 4 = 3
      · rw [BodyHeader.decode_cons_fat hfat] at h
        split at h
        · cases h
        · next hroom =>
          -- the first byte is the low half of the first number
          have hformat : (BodyHeader.FatFields.ofBytes (firstByte :: rest)).lead % 4 = 3 := by
            show (firstByte.toNat + 256 * LittleEndian.decode (rest.take 1)) % 4 = 3
            omega
          rw [ofBytes, if_pos hfat]
          exact FatLayout.bytes_ofBytes (Nat.le_of_not_lt hroom) hformat h
      · by_cases htiny : firstByte.toNat % 4 = 2
        · rw [BodyHeader.decode_cons_tiny htiny] at h
          split at h
          · cases h
          · next hroom =>
            cases h
            rw [ofBytes, if_neg hfat]
            exact ⟨TinyLayout.valid_ofBytes hroom, TinyLayout.bytes_ofBytes htiny hroom,
              congrArg BodyHeader.ofCodeSize (TinyLayout.length_code_ofBytes hroom)⟩
        · rw [BodyHeader.decode_cons_unknown (by omega)] at h
          cases h

end HeaderLayout

/-- **Decoding and encoding of headers are inverse.**  The bytes of every
layout decode to its header; and bytes that decode to a header are those of
exactly one layout, which has this header. -/
theorem BodyHeader.decode_layout_bytes :
    (∀ l : HeaderLayout, l.Valid → decode l.bytes = .ok l.header)
    ∧ ∀ (data : List UInt8) (header : BodyHeader), decode data = .ok header →
        ∃! l : HeaderLayout, l.Valid ∧ l.bytes = data ∧ l.header = header := by
  constructor
  · intro l hvalid
    exact hvalid.decode_bytes
  · intro data header h
    refine ⟨HeaderLayout.ofBytes data, HeaderLayout.bytes_ofBytes h, ?_⟩
    -- any other layout with these bytes can be cut out of them as well
    intro l hl
    obtain ⟨hvalid, hbytes, -⟩ := hl
    rw [← hbytes, hvalid.ofBytes_bytes]

end MethodListing
