/-
  MethodListing.Proofs.HeaderExtent — HOW MANY BYTES A HEADER TAKES.

  What a header says stands in very few bytes: the one byte of a tiny header,
  the twelve of a fat header's fixed part.  All other bytes, of the rest of
  the header and of the code, are only counted.  So an accepted header goes
  with every byte string that agrees on those few bytes and is long enough,
  and `size` is the number that is long enough: with one byte less the data
  ends too early.

  More bytes can therefore turn `outOfBounds` into something else, but they
  never change a header, nor a fault.  The latter hangs on the order of the
  checks: a header that is declared too short is a fault only when the fixed
  part is there, and then no further byte is looked at.

  Main results:
    * `decode_eq_ok_iff`              — accepted bytes, by the header that they
      start with;
    * `StartsWith.of_take_eq`         — only the bytes read matter;
    * `StartsWith.outOfBounds_prefix` — anything shorter ends too early;
    * `Refused.append`                — a fault stays;
    * `decode_extent`                 — all of it together.
-/
import MethodListing.Proofs.HeaderRoundTrip
import MethodListing.Proofs.HeaderVerdict

namespace MethodListing.BodyHeader

/-! ## §1. The bytes that are read. -/

/-- The number of bytes that a header is read from: the one byte of a tiny
header, the fixed part of a fat one. -/
def readSize (header : BodyHeader) : Nat := if header.isFat then fatFieldsSize else 1

theorem readSize_pos (header : BodyHeader) : 0 < header.readSize := by
  unfold readSize
  split
  · show 0 < 12
    omega
  · exact Nat.one_pos

/-- Bytes with the same front as bytes that start somehow start the same way. -/
theorem exists_cons_of_take_eq {n : Nat} (hn : 0 < n) {firstByte : UInt8}
    {rest other : List UInt8} (h : other.take n = (firstByte :: rest).take n) :
    ∃ rest', other = firstByte :: rest' := by
  obtain ⟨k, rfl⟩ := Nat.exists_eq_succ_of_ne_zero (Nat.ne_of_gt hn)
  cases other with
  | nil => cases h
  | cons otherByte rest' =>
      have hbyte : otherByte = firstByte := (List.cons.inj h).1
      exact ⟨rest', by rw [hbyte]⟩

/-- The fields are those of the fixed part, whatever is behind it. -/
theorem FatFields.ofBytes_eq_of_take_eq {data other : List UInt8}
    (h : other.take fatFieldsSize = data.take fatFieldsSize) : ofBytes other = ofBytes data := by
  have hfront : ∀ bytes : List UInt8, ofBytes (bytes.take fatFieldsSize) = ofBytes bytes := by
    intro bytes
    simp [ofBytes, fatFieldsSize, List.drop_take, List.take_take]
  rw [← hfront other, h, hfront]

/-! ## §2. Accepted bytes. -/

/-- **Bytes that start with a header**, which is there in full together with
its code. -/
inductive StartsWith : List UInt8 → BodyHeader → Prop where
  | tiny {firstByte : UInt8} {rest : List UInt8}
      (format : firstByte.toNat % 4 = 2)
      (complete : (ofCodeSize (firstByte.toNat / 4)).size ≤ (firstByte :: rest).length) :
      StartsWith (firstByte :: rest) (ofCodeSize (firstByte.toNat / 4))
  | fat {firstByte : UInt8} {rest : List UInt8}
      (format : firstByte.toNat % 4 = 3)
      (fixed : fatFieldsSize ≤ (FatFields.ofBytes (firstByte :: rest)).headerSize)
      (complete : (FatFields.ofBytes (firstByte :: rest)).header.size
        ≤ (firstByte :: rest).length) :
      StartsWith (firstByte :: rest) (FatFields.ofBytes (firstByte :: rest)).header

/-- **Exactly the header that the bytes start with is decoded.** -/
theorem decode_eq_ok_iff (data : List UInt8) (header : BodyHeader) :
    decode data = .ok header ↔ StartsWith data header := by
  constructor
  · intro h
    cases data with
    | nil => cases h
    | cons firstByte rest =>
        by_cases hfat : firstByte.toNat % 4 = 3
        · rw [decode_cons_fat hfat] at h
          split at h
          · cases h
          · obtain ⟨hfixed, hroom, rfl⟩ := FatFields.check_eq_ok_iff.1 h
            exact .fat hfat hfixed hroom
        · by_cases htiny : firstByte.toNat % 4 = 2
          · rw [decode_cons_tiny htiny] at h
            split at h
            · cases h
            · next hroom =>
              cases h
              refine .tiny htiny ?_
              show firstByte.toNat / 4 + 1 ≤ rest.length + 1
              omega
          · rw [decode_cons_unknown (by omega)] at h
            cases h
  · intro h
    cases h with
    | @tiny firstByte rest format complete =>
        have hroom : firstByte.toNat / 4 + 1 ≤ rest.length + 1 := complete
        have hnotcut : ¬ rest.length < firstByte.toNat / 4 := by omega
        rw [decode_cons_tiny format, if_neg hnotcut]
    | @fat firstByte rest format fixed complete =>
        -- a header with room for the fixed part, there in full, brings the fixed part along
        have hsize : (FatFields.ofBytes (firstByte :: rest)).codeSize
            + (FatFields.ofBytes (firstByte :: rest)).headerSize ≤ (firstByte :: rest).length :=
          complete
        have hlen : ¬ (firstByte :: rest).length < fatFieldsSize := by omega
        rw [decode_cons_fat format, if_neg hlen]
        exact FatFields.check_eq_ok_iff.2 ⟨fixed, hsize, rfl⟩

namespace StartsWith

variable {data other : List UInt8} {header : BodyHeader}

theorem size_le (h : StartsWith data header) : header.size ≤ data.length := by
  cases h with
  | tiny _ complete => exact complete
  | fat _ _ complete => exact complete

/-- The bytes read are bytes of the header. -/
theorem readSize_le_size (h : StartsWith data header) : header.readSize ≤ header.size := by
  cases h with
  | @tiny firstByte rest _ _ =>
      show 1 ≤ firstByte.toNat / 4 + 1
      omega
  | @fat firstByte rest _ fixed _ =>
      show fatFieldsSize ≤ (FatFields.ofBytes (firstByte :: rest)).codeSize
        + (FatFields.ofBytes (firstByte :: rest)).headerSize
      omega

/-- **Only the bytes read matter.**  Any bytes that agree on them start with
the same header, provided that there are enough. -/
theorem of_take_eq (h : StartsWith data header)
    (htake : other.take header.readSize = data.take header.readSize)
    (hlen : header.size ≤ other.length) : StartsWith other header := by
  cases h with
  | tiny format complete =>
      obtain ⟨rest', rfl⟩ := exists_cons_of_take_eq (readSize_pos _) htake
      exact .tiny format hlen
  | @fat firstByte rest format fixed complete =>
      obtain ⟨rest', rfl⟩ := exists_cons_of_take_eq (readSize_pos _) htake
      have hfields : FatFields.ofBytes (firstByte :: rest')
          = FatFields.ofBytes (firstByte :: rest) := FatFields.ofBytes_eq_of_take_eq htake
      rw [← hfields] at hlen fixed ⊢
      exact .fat format fixed hlen

/-- Bytes behind the header change nothing. -/
theorem append (h : StartsWith data header) (more : List UInt8) :
    StartsWith (data ++ more) header := by
  have hsize := h.size_le
  have hread := h.readSize_le_size
  refine h.of_take_eq (List.take_append_of_le_length (by omega)) ?_
  rw [List.length_append]
  omega

/-- The header and its code are enough. -/
theorem take_size (h : StartsWith data header) : StartsWith (data.take header.size) header := by
  have hsize := h.size_le
  refine h.of_take_eq ?_ ?_
  · rw [List.take_take, Nat.min_eq_left h.readSize_le_size]
  · rw [List.length_take]
    omega

/-! ## §3. Too few bytes. -/

/-- **Anything shorter ends too early**: before the fixed part, which is
noticed at once, or behind it, and then the fixed part is the same and asks
for more. -/
theorem outOfBounds_prefix (h : StartsWith data header) {part : List UInt8}
    (hpart : part <+: data) (hne : part ≠ []) (hcut : part.length < header.size) :
    decode part = .error .outOfBounds := by
  obtain ⟨behind, hdata⟩ := hpart
  obtain ⟨partByte, partRest, rfl⟩ := List.exists_cons_of_ne_nil hne
  cases h with
  | @tiny firstByte rest format complete =>
      obtain ⟨rfl, -⟩ := List.cons.inj hdata
      have hsize : partRest.length + 1 < partByte.toNat / 4 + 1 := hcut
      have hroom : partRest.length < partByte.toNat / 4 := by omega
      rw [decode_cons_tiny format, if_pos hroom]
  | @fat firstByte rest format fixed complete =>
      obtain ⟨rfl, -⟩ := List.cons.inj hdata
      rw [decode_cons_fat format]
      split
      · rfl
      · next hlen =>
        have hfields : FatFields.ofBytes (partByte :: rest)
            = FatFields.ofBytes (partByte :: partRest) := by
          apply FatFields.ofBytes_eq_of_take_eq
          rw [← hdata, List.take_append_of_le_length (Nat.le_of_not_lt hlen)]
        rw [hfields] at fixed hcut
        have hroom : (partByte :: partRest).length
            < (FatFields.ofBytes (partByte :: partRest)).codeSize
              + (FatFields.ofBytes (partByte :: partRest)).headerSize := hcut
        rw [FatFields.check, if_neg (Nat.not_lt.2 fixed), if_pos hroom]

end StartsWith

/-- A header and its code together are counted without overflow in 64 bits. -/
theorem size_lt_of_decode {data : List UInt8} {header : BodyHeader}
    (h : decode data = .ok header) : header.size < UInt64.size := by
  obtain ⟨hvalid, -, hheader⟩ := HeaderLayout.bytes_ofBytes h
  rw [← hheader]
  generalize HeaderLayout.ofBytes data = layout at hvalid
  cases layout with
  | tiny l =>
      have hcode : l.code.length < 64 := hvalid
      show l.code.length + 1 < 18446744073709551616
      omega
  | fat l =>
      have hfat : l.Valid := hvalid
      have hwords := hfat.le_fifteen
      have hcode := hfat.length_code_lt
      show l.code.length + 4 * l.headerWords < 18446744073709551616
      omega

/-! ## §4. Faults. -/

/-- **A fault stays.**  Where there is a byte at all, more bytes are refused
for the same fault. -/
theorem Refused.append {data : List UInt8} {fault : HeaderFault}
    (h : Refused data (.malformed fault)) (hne : data ≠ []) (more : List UInt8) :
    Refused (data ++ more) (.malformed fault) := by
  cases h with
  | noBytes => exact absurd rfl hne
  | unknownFormat format => exact .unknownFormat format
  | @shortHeader firstByte rest format fixed short =>
      -- the second byte is one of the twelve, so it is the same byte
      have hwords : declaredWords (firstByte :: rest)
          = declaredWords (firstByte :: (rest ++ more)) := by
        match rest, fixed with
        | secondByte :: rest', _ => rfl
      rw [hwords] at short ⊢
      refine .shortHeader format ?_ short
      show 12 ≤ (firstByte :: rest ++ more).length
      rw [List.length_append]
      omega

/-- **Bytes that are not cut short keep their verdict** when more follow. -/
theorem decode_append_of_ne_outOfBounds {data : List UInt8} (hne : data ≠ [])
    (h : decode data ≠ .error .outOfBounds) (more : List UInt8) :
    decode (data ++ more) = decode data := by
  cases hresult : decode data with
  | ok header =>
      have hstarts := (decode_eq_ok_iff data header).1 hresult
      exact (decode_eq_ok_iff _ _).2 (hstarts.append more)
  | error e =>
      cases e with
      | outOfBounds => exact absurd hresult h
      | malformed fault =>
          have hrefused := (decode_eq_error_iff data _).1 hresult
          exact (decode_eq_error_iff _ _).2 (hrefused.append hne more)

/-! ## §5. The extent of a header. -/

/-- **A header depends on the bytes it is read from, and its size is the number
of bytes that it takes.**  Of an accepted header, the size is that of header
and code, and the bytes have it; all bytes that agree on those that are read,
and are as many as the size, give the same header, so the header and its code
are enough; and any part that is shorter, but not empty, ends too early.  Of
refused bytes, a fault stays with its message whatever follows.  So too few
bytes is the only verdict that more bytes can change. -/
theorem decode_extent :
    (∀ (data : List UInt8) (header : BodyHeader), decode data = .ok header →
      header.size = header.codeSize + header.headerSize
      ∧ header.size ≤ data.length
      ∧ header.size < UInt64.size
      ∧ (∀ other : List UInt8, header.size ≤ other.length →
          other.take (if header.isFat then 12 else 1)
            = data.take (if header.isFat then 12 else 1) →
          decode other = .ok header)
      ∧ (∀ part : List UInt8, part <+: data → part ≠ [] → part.length < header.size →
          decode part = .error .outOfBounds)
      ∧ decode (data.take header.size) = .ok header)
    ∧ (∀ (data : List UInt8) (fault : HeaderFault), data ≠ [] →
        decode data = .error (.malformed fault) →
        ∀ more : List UInt8, decode (data ++ more) = .error (.malformed fault))
    ∧ (∀ data more : List UInt8, data ≠ [] → decode (data ++ more) ≠ decode data →
        decode data = .error .outOfBounds) := by
  refine ⟨?_, ?_, ?_⟩
  · intro data header h
    have hstarts := (decode_eq_ok_iff data header).1 h
    refine ⟨rfl, hstarts.size_le, size_lt_of_decode h, ?_, ?_, ?_⟩
    · intro other hlen htake
      exact (decode_eq_ok_iff other header).2 (hstarts.of_take_eq htake hlen)
    · intro part hpart hne hcut
      exact hstarts.outOfBounds_prefix hpart hne hcut
    · exact (decode_eq_ok_iff _ header).2 hstarts.take_size
  · intro data fault hne h more
    have hcut : decode data ≠ .error .outOfBounds := by
      rw [h]
      intro heq
      cases heq
    rw [decode_append_of_ne_outOfBounds hne hcut more, h]
  · intro data more hne hchanged
    by_cases hcut : decode data = .error .outOfBounds
    · exact hcut
    · exact absurd (decode_append_of_ne_outOfBounds hne hcut more) hchanged

/-- Sixteen bytes of header, two of code and one behind them: what stands
behind the twelfth byte may be anything, and seventeen bytes are too few.  A
header that declares four bytes is refused for that, and stays so. -/
theorem decode_extent_sixteen_bytes :
    decode [0x13, 0x40, 5, 0, 2, 0, 0, 0, 1, 0, 0, 0x11, 7, 7, 7, 7, 0x2A]
        = .error .outOfBounds
    ∧ decode [0x13, 0x40, 5, 0, 2, 0, 0, 0, 1, 0, 0, 0x11, 8, 8, 8, 8, 9, 9]
        = .ok ⟨2, 16, ⟨0x11000001⟩, 5, true, true, false⟩
    ∧ decode ([0x03, 0x10, 0, 0, 9, 0, 0, 0, 0, 0, 0, 0] ++ [1, 2, 3])
        = .error (.malformed (.shortHeader 4)) := by
  have haccepted : decode [0x13, 0x40, 5, 0, 2, 0, 0, 0, 1, 0, 0, 0x11, 7, 7, 7, 7, 0x2A, 0x2A, 1]
      = .ok ⟨2, 16, ⟨0x11000001⟩, 5, true, true, false⟩ := rfl
  obtain ⟨-, -, -, hother, hpart, -⟩ := decode_extent.1 _ _ haccepted
  refine ⟨hpart _ (by decide) (by decide) (by decide), hother _ (by decide) (by decide), ?_⟩
  exact decode_extent.2.1 _ _ (by decide) rfl _

end MethodListing.BodyHeader
