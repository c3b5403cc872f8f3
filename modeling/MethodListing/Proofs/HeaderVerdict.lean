/-
  MethodListing.Proofs.HeaderVerdict — DECODING COMES TO THE RIGHT VERDICT.

  The decoder accepts the well-formed bytes and no others, and what it
  reports of the others is what `Refused` says.  One direction is a case for
  each constructor; the other needs no second case analysis: all bytes are
  well-formed or refused, and a decoder gives one answer only.

  The decoder's own bounds checks on reads come to nothing: none of the reads
  it makes can fail, so a reader that fails differently leads to the same
  results.

  Main results:
    * `decode_cons_fat_eq`    — a fat header, by what it declares;
    * `wellFormed_or_refused` — there is a verdict on all bytes;
    * `exists_ok_iff_wellFormed`, `decode_eq_error_iff` — and the decoder comes
      to it;
    * `decodeWith_eq_decode`  — no failing read is ever noticed;
    * `decode_verdict`        — acceptance, refusal, and the words for it.
-/
import MethodListing.Method.HeaderVerdict
import MethodListing.Proofs.HeaderDecoding

namespace MethodListing.BodyHeader

/-! ## §1. Decoding, by what a header declares. -/

/-- The first number of a fat header holds the declared size on top. -/
theorem headerSize_ofBytes {data : List UInt8} (h : 2 ≤ data.length) :
    (FatFields.ofBytes data).headerSize = 4 * declaredWords data := by
  rw [FatFields.headerSize_eq]
  match data, h with
  | first :: second :: rest, _ =>
      have hfirst := first.toNat_lt
      show 4 * ((first.toNat + 256 * (second.toNat + 256 * 0)) / 4096) = 4 * (second.toNat / 16)
      omega

theorem codeSize_ofBytes (data : List UInt8) :
    (FatFields.ofBytes data).codeSize = declaredCode data := rfl

/-- **A fat header**, by what it declares. -/
theorem decode_cons_fat_eq {firstByte : UInt8} (h : firstByte.toNat % 4 = 3)
    (rest : List UInt8) :
    decode (firstByte :: rest) =
      if (firstByte :: rest).length < 12 then .error .outOfBounds
      else if declaredWords (firstByte :: rest) < 3 then
        .error (.malformed (.shortHeader (4 * declaredWords (firstByte :: rest))))
      else if (firstByte :: rest).length
          < 4 * declaredWords (firstByte :: rest) + declaredCode (firstByte :: rest) then
        .error .outOfBounds
      else .ok (FatFields.ofBytes (firstByte :: rest)).header := by
  rw [decode_cons_fat h]
  generalize firstByte :: rest = data
  by_cases hlen : data.length < 12
  · rw [if_pos hlen]
    exact if_pos hlen
  · have hheader := headerSize_ofBytes (show 2 ≤ data.length by omega)
    -- twelve bytes of header are three units of four
    have hshort : (4 * declaredWords data < fatFieldsSize) ↔ declaredWords data < 3 := by
      show 4 * declaredWords data < 12 ↔ _
      omega
    rw [if_neg hlen]
    show (if data.length < 12 then _ else _) = _
    rw [if_neg hlen]
    simp only [FatFields.check, hheader, codeSize_ofBytes, hshort,
      Nat.add_comm (declaredCode data)]

/-! ## §2. One verdict on all bytes. -/

theorem exists_ok_of_wellFormed {data : List UInt8} (h : WellFormed data) :
    ∃ header, decode data = .ok header := by
  cases h with
  | @tiny firstByte rest hformat hcomplete =>
      have hroom : ¬ rest.length < firstByte.toNat / 4 := by
        simp only [List.length_cons] at hcomplete
        omega
      rw [decode_cons_tiny hformat, if_neg hroom]
      exact ⟨_, rfl⟩
  | fat hformat hfixed hroom hcomplete =>
      rw [decode_cons_fat_eq hformat, if_neg (Nat.not_lt.2 hfixed), if_neg (Nat.not_lt.2 hroom),
        if_neg (Nat.not_lt.2 hcomplete)]
      exact ⟨_, rfl⟩

theorem decode_of_refused {data : List UInt8} {e : DecodeError} (h : Refused data e) :
    decode data = .error e := by
  cases h with
  | noBytes => rfl
  | unknownFormat hformat => exact decode_cons_unknown (by omega) _
  | @tinyCut firstByte rest hformat hcut =>
      have hroom : rest.length < firstByte.toNat / 4 := by
        simp only [List.length_cons] at hcut
        omega
      rw [decode_cons_tiny hformat, if_pos hroom]
  | fatCut hformat hcut => rw [decode_cons_fat_eq hformat, if_pos hcut]
  | shortHeader hformat hfixed hshort =>
      rw [decode_cons_fat_eq hformat, if_neg (Nat.not_lt.2 hfixed), if_pos hshort]
  | codeCut hformat hfixed hroom hcut =>
      rw [decode_cons_fat_eq hformat, if_neg (Nat.not_lt.2 hfixed), if_neg (Nat.not_lt.2 hroom),
        if_pos hcut]

/-- **There is a verdict on all bytes.** -/
theorem wellFormed_or_refused (data : List UInt8) :
    WellFormed data ∨ ∃ e, Refused data e := by
  match data with
  | [] => exact .inr ⟨_, .noBytes⟩
  | firstByte :: rest =>
      have hformats : (firstByte.toNat % 4 = 0 ∨ firstByte.toNat % 4 = 1)
          ∨ firstByte.toNat % 4 = 2 ∨ firstByte.toNat % 4 = 3 := by omega
      rcases hformats with hformat | hformat | hformat
      · exact .inr ⟨_, .unknownFormat hformat⟩
      · rcases Nat.lt_or_ge (firstByte :: rest).length (1 + firstByte.toNat / 4)
          with hcut | hcomplete
        · exact .inr ⟨_, .tinyCut hformat hcut⟩
        · exact .inl (.tiny hformat hcomplete)
      · -- each check is reached with the ones before it passed
        rcases Nat.lt_or_ge (firstByte :: rest).length 12 with hcut | hfixed
        · exact .inr ⟨_, .fatCut hformat hcut⟩
        · rcases Nat.lt_or_ge (declaredWords (firstByte :: rest)) 3 with hshort | hroom
          · exact .inr ⟨_, .shortHeader hformat hfixed hshort⟩
          · rcases Nat.lt_or_ge (firstByte :: rest).length
              (4 * declaredWords (firstByte :: rest) + declaredCode (firstByte :: rest))
              with hcut | hcomplete
            · exact .inr ⟨_, .codeCut hformat hfixed hroom hcut⟩
            · exact .inl (.fat hformat hfixed hroom hcomplete)

theorem exists_ok_iff_wellFormed (data : List UInt8) :
    (∃ header, decode data = .ok header) ↔ WellFormed data := by
  constructor
  · intro h
    obtain ⟨header, hheader⟩ := h
    rcases wellFormed_or_refused data with hwell | ⟨e, hrefused⟩
    · exact hwell
    · -- a refused header was decoded to an error
      rw [decode_of_refused hrefused] at hheader
      cases hheader
  · exact exists_ok_of_wellFormed

theorem decode_eq_error_iff (data : List UInt8) (e : DecodeError) :
    decode data = .error e ↔ Refused data e := by
  constructor
  · intro h
    rcases wellFormed_or_refused data with hwell | ⟨e', hrefused⟩
    · obtain ⟨header, hheader⟩ := exists_ok_of_wellFormed hwell
      rw [h] at hheader
      cases hheader
    · -- there is one error only, so it is the one that was reported
      rw [decode_of_refused hrefused] at h
      cases h
      exact hrefused
  · exact decode_of_refused

/-! ## §3. Reads that would fail are not made. -/

theorem exists_of_bind_eq_ok {ε α β : Type} {x : Except ε α} {f : α → Except ε β} {b : β}
    (h : x >>= f = .ok b) : ∃ a, x = .ok a ∧ f a = .ok b := by
  cases x with
  | error e => cases h
  | ok a => exact ⟨a, rfl, h⟩

/-- Fields that were read are read by every reader that agrees. -/
theorem FatFields.readWith_eq_ok {read : Reader} (hread : read.Agrees) {data : List UInt8}
    {fields : FatFields} (h : FatFields.read data = .ok fields) :
    FatFields.readWith read data = .ok fields := by
  obtain ⟨lead, hlead, h⟩ := exists_of_bind_eq_ok h
  obtain ⟨stack, hstack, h⟩ := exists_of_bind_eq_ok h
  obtain ⟨code, hcode, h⟩ := exists_of_bind_eq_ok h
  obtain ⟨sig, hsig, h⟩ := exists_of_bind_eq_ok h
  unfold FatFields.readWith
  rw [hread _ _ _ _ hlead]
  show (read .half data lead.2 >>= _) = _
  rw [hread _ _ _ _ hstack]
  show (read .word data stack.2 >>= _) = _
  rw [hread _ _ _ _ hcode]
  show (read .word data code.2 >>= _) = _
  rw [hread _ _ _ _ hsig]
  exact h

/-- The fields are asked for only where all of them are there to be read. -/
theorem decodeFatWith_eq {read : Reader} (hread : read.Agrees) (data : List UInt8) :
    decodeFatWith read data = decodeFatWith readAt data := by
  unfold decodeFatWith
  by_cases hlen : data.length < fatFieldsSize
  · rw [if_pos hlen, if_pos hlen]
  · have hfields := FatFields.read_eq_ok (Nat.le_of_not_lt hlen)
    have hchecked : FatFields.readWith readAt data = .ok _ := hfields
    rw [if_neg hlen, if_neg hlen, FatFields.readWith_eq_ok hread hfields, hchecked]

/-- **No failing read is ever noticed**: whatever a reader does where a
bounds-checked read fails, decoding through it comes to the same. -/
theorem decodeWith_eq_decode {read : Reader} (hread : read.Agrees) (data : List UInt8) :
    decodeWith read data = decode data := by
  match data with
  | [] => rfl
  | firstByte :: rest =>
      obtain ⟨result, hresult⟩ : ∃ result, readAt .byte (firstByte :: rest) 0 = .ok result :=
        ⟨_, readAt_eq_ok (by decide) (by simp [Width.bytes])⟩
      have hfirst : (read .byte (firstByte :: rest) 0).map (·.1) = .ok firstByte.toNat := by
        rw [hread _ _ _ _ hresult, ← hresult]
        exact readFirst_byte firstByte rest
      rw [decodeWith_cons hfirst, decode_cons, decodeFatWith_eq hread]

/-! ## §4. The verdict. -/

/-- **Decoding comes to the right verdict.**  Exactly the well-formed bytes
are accepted, all others are refused with exactly the error that `Refused`
gives them, and what malformed bytes are told is fixed.  No read inside the
decoder has a part in it: where the first byte is asked for it is there, where
the fixed part is asked for all its fields are, and how a read would fail makes
no difference to any result. -/
theorem decode_verdict :
    (∀ data, (∃ header, decode data = .ok header) ↔ WellFormed data)
    ∧ (∀ data e, decode data = .error e ↔ Refused data e)
    ∧ HeaderFault.noBytes.message = "Provided data for body parsing is empty"
    ∧ (∀ firstByte, (HeaderFault.unknownFormat firstByte).message
        = "MethodHeader is neither FAT nor TINY - " ++ toString firstByte.toNat)
    ∧ (∀ size, (HeaderFault.shortHeader size).message
        = "Fat MethodHeader declares a header size of " ++ toString size ++ " bytes")
    ∧ (∀ data, data ≠ [] → ∃ first, readFirst .byte data = .ok first)
    ∧ (∀ data, fatFieldsSize ≤ data.length → ∃ fields, FatFields.read data = .ok fields)
    ∧ (∀ read : Reader, read.Agrees → ∀ data, decodeWith read data = decode data) := by
  refine ⟨exists_ok_iff_wellFormed, decode_eq_error_iff, rfl, fun _ => rfl, fun _ => rfl, ?_,
    fun _ hlen => ⟨_, FatFields.read_eq_ok hlen⟩, fun _ hread => decodeWith_eq_decode hread⟩
  intro data hdata
  obtain ⟨firstByte, rest, rfl⟩ := List.exists_cons_of_ne_nil hdata
  exact ⟨_, readFirst_byte firstByte rest⟩

/-- Headers with several faults: too few bytes come first, then a header that
is too short, and the code size that no data could meet comes last. -/
theorem decode_verdict_several_faults :
    decode [0x03, 0x10, 0, 0, 0xFF, 0xFF, 0xFF, 0xFF] = .error .outOfBounds
    ∧ decode [0x03, 0x10, 0, 0, 0xFF, 0xFF, 0xFF, 0xFF, 0, 0, 0, 0]
        = .error (.malformed (.shortHeader 4))
    ∧ decode [0x03, 0x30, 0, 0, 0xFF, 0xFF, 0xFF, 0xFF, 0, 0, 0, 0] = .error .outOfBounds :=
  ⟨(decode_verdict.2.1 _ _).2 (.fatCut (by decide) (by decide)),
    (decode_verdict.2.1 _ _).2 (.shortHeader (by decide) (by decide) (by decide)),
    (decode_verdict.2.1 _ _).2 (.codeCut (by decide) (by decide) (by decide) (by decide))⟩

end MethodListing.BodyHeader
