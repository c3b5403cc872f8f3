/-
  MethodListing.Proofs.KickoffScope — FROM HEADER BYTES TO THE SCOPE SHOWN.

  The scope of a kickoff method's stub goes a long way: the bytes of a header
  are decoded to a code size, the size is clamped to 32 bits, a span of that
  length is built with an end that is clamped again, and the listing keeps
  the stub in a slot of its own.  Nothing is lost on that way.  A decoded size
  always fits, so neither clamp ever cuts, and what the listing held before
  has no part in it.

  Main results:
    * `codeSize_lt_of_decode`        — decoded code sizes fit 32 bits;
    * `Method.mem_bodySpan`          — which offsets a method's code covers;
    * `debugRecord?_viaKickoff`      — a state machine's record, attached to a
      listing in any state;
    * `shown_scope_of_kickoff`       — the stub that is shown, and its scope.
-/
import MethodListing.Listing.Operation
import MethodListing.Proofs.HeaderRoundTrip

namespace MethodListing

/-! ## §1. Code sizes and spans. -/

theorem BodyHeader.codeSize_lt_of_decode {data : List UInt8} {header : BodyHeader}
    (h : decode data = .ok header) : header.codeSize < UInt32.size := by
  -- accepted bytes have a layout, and a layout's code fits the field for its size
  obtain ⟨hvalid, -, hheader⟩ := HeaderLayout.bytes_ofBytes h
  rw [← hheader]
  generalize HeaderLayout.ofBytes data = layout at hvalid
  cases layout with
  | tiny l =>
      have hsize : l.code.length < 64 := hvalid
      show l.code.length < 4294967296
      omega
  | fat l =>
      have hfat : l.Valid := hvalid
      exact hfat.length_code_lt

theorem ILSpan.mem_iff_of_start_eq_zero {s : ILSpan} (h : s.start = 0) {offset : UInt32} :
    offset ∈ s ↔ offset.toNat < s.stop.toNat := by
  rw [mem_iff_toNat, h]
  constructor
  · intro hmem
    exact hmem.2
  · intro hlt
    exact ⟨Nat.zero_le _, hlt⟩

namespace Method

variable (m : Method)

/-- **The code of a method covers** the offsets below its size, less the
largest offset if the size is too large for a span. -/
theorem mem_bodySpan (offset : UInt32) :
    offset ∈ m.bodySpan ↔ offset.toNat < min m.codeSize (UInt32.size - 1) := by
  have hstart : m.bodySpan.start = 0 := rfl
  rw [ILSpan.mem_iff_of_start_eq_zero hstart, toNat_stop_bodySpan]

theorem toNat_len_bodySpan : m.bodySpan.len.toNat = min m.codeSize (UInt32.size - 1) := by
  rw [ILSpan.toNat_len, toNat_stop_bodySpan]
  rfl

variable {m}

theorem codeSize_of_body {header : BodyHeader} (h : m.body = some header) :
    m.codeSize = header.codeSize := by
  rw [codeSize, h]
  rfl

theorem codeSize_of_no_body (h : m.body = none) : m.codeSize = 0 := by
  rw [codeSize, h]
  rfl

end Method

/-! ## §2. The listing. -/

/-- **A record that names the announced method as its kickoff method** is kept,
and shown inside the stub of that method, whatever the slots held before. -/
theorem Listing.debugRecord?_viaKickoff (s : Listing) {r : DebugRecord} {kickoff : Method}
    (hkickoff : r.kickoff = some kickoff) (hother : r.method.token ≠ kickoff.token) :
    (run [.announce kickoff.token, .request (.attach (.debugRecord r))] s).state.debugRecord?
      = some (r.stubFor kickoff, some r) := by
  have hstarted : r.isStartedBy (s.debug.announce kickoff.token).announced = true := by
    show r.kickoff.any (·.token == kickoff.token) = true
    rw [hkickoff]
    show (kickoff.token == kickoff.token) = true
    exact beq_self_eq_true _
  show ((s.debug.announce kickoff.token).accept r).state.lookup? = _
  -- such a record fills both slots, so nothing is left of what they held
  rw [DebugSlots.accept_viaKickoff hother hstarted, DebugRecord.kickoffStub, hkickoff]
  rfl

/-- **The stub that is shown, and its scope.**  Announce a method to a listing
in any state, and attach the record of a state machine that this method
starts.  What is shown is the blank record of the method, with the producer
and the settings version of the record, and the record itself inside.  Its
scope has no declarations.  If the method's body was decoded, its size was
not clamped, the scope is as long as the code, and covers exactly the offsets
of the code; without a body the scope covers nothing; and for a code size of
any origin it goes up to that size, or to the largest offset. -/
theorem Listing.shown_scope_of_kickoff (s : Listing) {token : Token} {kickoff : Method}
    {r : DebugRecord} (htoken : kickoff.token = token) (hkickoff : r.kickoff = some kickoff)
    (hother : r.method.token ≠ token) :
    ∃ shown,
      (run [.announce token, .request (.attach (.debugRecord r))] s).state.debugRecord?
        = some (shown, some r)
      ∧ shown = { DebugRecord.ofMethod r.compilerName kickoff with
          settingsVersion := r.settingsVersion }
      ∧ shown.scope.isLeaf = true
      ∧ (∀ data header, BodyHeader.decode data = .ok header → kickoff.body = some header →
          kickoff.codeSize < UInt32.size
          ∧ shown.scope.span.len.toNat = kickoff.codeSize
          ∧ ∀ offset : UInt32, offset ∈ shown.scope.span ↔ offset.toNat < header.codeSize)
      ∧ (kickoff.body = none →
          shown.scope.span.isEmpty = true ∧ ∀ offset : UInt32, offset ∉ shown.scope.span)
      ∧ (∀ size, kickoff.body = some (.ofCodeSize size) →
          shown.scope.span.start = 0
          ∧ shown.scope.span.stop.toNat = min size (UInt32.size - 1)) := by
  subst htoken
  refine ⟨r.stubFor kickoff, s.debugRecord?_viaKickoff hkickoff hother, rfl, rfl, ?_, ?_, ?_⟩
  · intro data header hdecode hbody
    have hfits : kickoff.codeSize < UInt32.size := by
      rw [Method.codeSize_of_body hbody]
      exact BodyHeader.codeSize_lt_of_decode hdecode
    -- the size is at most the largest offset, so the clamp is the identity
    have hclamp : min kickoff.codeSize (UInt32.size - 1) = kickoff.codeSize := by omega
    refine ⟨hfits, ?_, ?_⟩
    · show kickoff.bodySpan.len.toNat = _
      rw [Method.toNat_len_bodySpan, hclamp]
    · intro offset
      show offset ∈ kickoff.bodySpan ↔ _
      rw [Method.mem_bodySpan, hclamp, Method.codeSize_of_body hbody]
  · intro hbody
    have hzero : min kickoff.codeSize (UInt32.size - 1) = 0 := by
      rw [Method.codeSize_of_no_body hbody]
      exact Nat.zero_min _
    constructor
    · show kickoff.bodySpan.isEmpty = true
      rw [ILSpan.isEmpty_iff, ← UInt32.toNat_inj, Method.toNat_len_bodySpan, hzero]
      rfl
    · intro offset
      show offset ∉ kickoff.bodySpan
      rw [Method.mem_bodySpan, hzero]
      exact Nat.not_lt_zero _
  · intro size hbody
    refine ⟨rfl, ?_⟩
    show kickoff.bodySpan.stop.toNat = _
    rw [Method.toNat_stop_bodySpan, Method.codeSize_of_body hbody]
    rfl

/-- Fourteen bytes with a fat header, for a listing that still shows the stub
of another method. -/
theorem Listing.shown_scope_of_kickoff_fat_header :
    ∃ shown, (run [.announce ⟨0x06000002⟩,
          .request (.attach (.debugRecord { DebugRecord.ofMethod "C#"
              ⟨⟨0x06000007⟩, "MoveNext", none⟩ with
            kickoff := some ⟨⟨0x06000002⟩, "Run",
              some ⟨2, 12, ⟨0x11000001⟩, 8, true, true, false⟩⟩ }))]
        (run [.announce ⟨0x06000001⟩,
          .request (.attach (.debugRecord { DebugRecord.ofMethod "IL"
              ⟨⟨0x06000007⟩, "MoveNext", none⟩ with
            kickoff := some ⟨⟨0x06000001⟩, "Main", none⟩ }))]
          (empty default)).state).state.debugRecord?
        = some (shown, some { DebugRecord.ofMethod "C#" ⟨⟨0x06000007⟩, "MoveNext", none⟩ with
            kickoff := some ⟨⟨0x06000002⟩, "Run",
              some ⟨2, 12, ⟨0x11000001⟩, 8, true, true, false⟩⟩ })
      ∧ shown.scope.span.len.toNat = 2
      ∧ ∀ offset : UInt32, offset ∈ shown.scope.span ↔ offset.toNat < 2 := by
  have hdecode : BodyHeader.decode
      [0x13, 0x30, 0x08, 0, 0x02, 0, 0, 0, 0x01, 0, 0, 0x11, 0x00, 0x2A]
        = .ok ⟨2, 12, ⟨0x11000001⟩, 8, true, true, false⟩ := rfl
  obtain ⟨shown, hshown, -, -, hbody, -, -⟩ := @shown_scope_of_kickoff
    (run [.announce ⟨0x06000001⟩,
      .request (.attach (.debugRecord { DebugRecord.ofMethod "IL"
          ⟨⟨0x06000007⟩, "MoveNext", none⟩ with
        kickoff := some ⟨⟨0x06000001⟩, "Main", none⟩ }))]
      (empty default)).state
    ⟨0x06000002⟩ ⟨⟨0x06000002⟩, "Run", some ⟨2, 12, ⟨0x11000001⟩, 8, true, true, false⟩⟩
    { DebugRecord.ofMethod "C#" ⟨⟨0x06000007⟩, "MoveNext", none⟩ with
      kickoff := some ⟨⟨0x06000002⟩, "Run",
        some ⟨2, 12, ⟨0x11000001⟩, 8, true, true, false⟩⟩ }
    rfl rfl (by decide)
  obtain ⟨-, hlen, hmem⟩ := hbody _ _ hdecode rfl
  exact ⟨shown, hshown, hlen, hmem⟩

end MethodListing
