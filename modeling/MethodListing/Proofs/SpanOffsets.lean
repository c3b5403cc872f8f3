/-
  MethodListing.Proofs.SpanOffsets — THE OFFSETS IN A SPAN OF CODE.

  A span of code is two bounds, and what is asked of it is answered from the
  bounds alone: its length is a difference that stops at zero, and the end of
  a span of given length is a sum that stops at the largest offset.  Here the
  answers are compared with the offsets that lie in the span, one by one.

  What the clamped end costs is a single offset.  No span covers the largest
  one, whatever its bounds, since it would have to end behind it; of all other
  offsets a span of given length covers those it would cover if ends were not
  clamped.  So clamping is not noticed where spans are put end to end: two of
  them cover what one span of the added lengths covers, also if one of the
  ends, or the sum of the lengths, is clamped.

  Main results:
    * `card_offsets`             — the length counts the offsets;
    * `isEmpty_iff_forall`       — a span is empty exactly if it has none;
    * `mem_ofLength_iff`         — the offsets in a span of some length;
    * `mem_or_mem_ofLength_iff`  — spans put end to end;
    * `offsets_clamped`          — all of it, for every span.
-/
import Mathlib.Data.FinEnum
import Mathlib.Order.Interval.Finset.Nat
import MethodListing.Debug.Span

namespace MethodListing.ILSpan

/-! ## §1. Counting. -/

/-- All offsets that lie in a span. -/
def offsets (s : ILSpan) : Finset UInt32 := {offset | offset ∈ s}

theorem mem_offsets {s : ILSpan} {offset : UInt32} : offset ∈ s.offsets ↔ offset ∈ s := by
  simp [offsets]

/-- As numbers, the offsets are an interval of numbers. -/
theorem image_toNat_offsets (s : ILSpan) :
    s.offsets.image UInt32.toNat = Finset.Ico s.start.toNat s.stop.toNat := by
  ext n
  rw [Finset.mem_image, Finset.mem_Ico]
  constructor
  · rintro ⟨offset, hoffset, rfl⟩
    exact mem_iff_toNat.1 (mem_offsets.1 hoffset)
  · rintro ⟨hstart, hstop⟩
    -- a number below the end of the span fits 32 bits
    have hfits : n < UInt32.size := Nat.lt_trans hstop s.stop.toNat_lt
    refine ⟨.ofNat n, mem_offsets.2 (mem_iff_toNat.2 ?_), UInt32.toNat_ofNat_of_lt' hfits⟩
    rw [UInt32.toNat_ofNat_of_lt' hfits]
    exact ⟨hstart, hstop⟩

/-- **The length counts the offsets.** -/
theorem card_offsets (s : ILSpan) : s.offsets.card = s.len.toNat := by
  have hinjective : Function.Injective UInt32.toNat := fun _ _ h => UInt32.toNat_inj.1 h
  calc s.offsets.card
      = (s.offsets.image UInt32.toNat).card := (Finset.card_image_of_injective _ hinjective).symm
    _ = (Finset.Ico s.start.toNat s.stop.toNat).card := by rw [image_toNat_offsets]
    _ = s.stop.toNat - s.start.toNat := Nat.card_Ico _ _
    _ = s.len.toNat := (toNat_len s).symm

/-- **A span is empty exactly if no offset lies in it.** -/
theorem isEmpty_iff_forall (s : ILSpan) : s.isEmpty = true ↔ ∀ offset, offset ∉ s := by
  rw [isEmpty_iff, ← UInt32.toNat_inj, ← card_offsets]
  show s.offsets.card = 0 ↔ _
  rw [Finset.card_eq_zero, Finset.eq_empty_iff_forall_notMem]
  exact forall_congr' fun offset => not_congr mem_offsets

/-! ## §2. Spans of given length. -/

/-- What clamping costs: the largest offset, and nothing else. -/
theorem mem_ofLength_iff_toNat {start length offset : UInt32} :
    offset ∈ ofLength start length ↔
      start.toNat ≤ offset.toNat ∧ offset.toNat < start.toNat + length.toNat
        ∧ offset.toNat ≠ UInt32.size - 1 := by
  have hoffset : offset.toNat < UInt32.size := offset.toNat_lt
  rw [mem_iff_toNat, toNat_stop_ofLength]
  show start.toNat ≤ offset.toNat ∧ _ ↔ _
  -- below the smaller of two ends is below both, and one of them is the largest offset
  omega

/-- **The offsets in a span of some length.** -/
theorem mem_ofLength_iff {start length offset : UInt32} :
    offset ∈ ofLength start length ↔
      start ≤ offset ∧ offset - start < length ∧ offset ≠ 0xFFFFFFFF := by
  rw [mem_ofLength_iff_toNat, ne_eq offset, ← UInt32.toNat_inj, UInt32.le_iff_toNat_le]
  refine and_congr_right fun hle => and_congr_left fun _ => ?_
  -- behind the start, subtracting it does not wrap
  rw [UInt32.lt_iff_toNat_lt, UInt32.toNat_sub_of_le _ _ hle]
  omega

example : (0xFFFFFFFE : UInt32) ∈ ofLength 0xFFFFFFF0 100
    ∧ (0xFFFFFFFF : UInt32) ∉ ofLength 0xFFFFFFF0 100 := by decide

/-! ## §3. Spans put end to end. -/

theorem start_le_stop_ofLength (start length : UInt32) : start ≤ (ofLength start length).stop := by
  have hstart : start.toNat < UInt32.size := start.toNat_lt
  rw [UInt32.le_iff_toNat_le, toNat_stop_ofLength]
  omega

/-- **Ends do not show how often they were clamped**: behind two lengths the end
is where it is behind their clamped sum. -/
theorem stop_ofLength_stop (start x y : UInt32) :
    (ofLength (ofLength start x).stop y).stop
      = (ofLength start (.ofNatClamp (x.toNat + y.toNat))).stop := by
  rw [← UInt32.toNat_inj]
  simp only [toNat_stop_ofLength, toNat_ofNatClamp]
  -- whichever sum reached the largest offset first, the end stays there
  omega

/-- Where one span ends another may start, without an offset in both. -/
theorem not_mem_and_mem {s t : ILSpan} (h : t.start = s.stop) (offset : UInt32) :
    ¬ (offset ∈ s ∧ offset ∈ t) := by
  rintro ⟨hs, ht⟩
  rw [mem_iff_toNat] at hs ht
  rw [h] at ht
  omega

/-- Two spans that meet cover what lies between the outer bounds. -/
theorem mem_or_mem_iff {start middle stop offset : UInt32} (hstart : start ≤ middle)
    (hstop : middle ≤ stop) :
    offset ∈ ILSpan.mk start middle ∨ offset ∈ ILSpan.mk middle stop
      ↔ offset ∈ ILSpan.mk start stop := by
  rw [UInt32.le_iff_toNat_le] at hstart hstop
  simp only [mem_iff_toNat]
  omega

/-- **Spans put end to end** cover what one span of the added lengths covers. -/
theorem mem_or_mem_ofLength_iff (start x y offset : UInt32) :
    offset ∈ ofLength start x ∨ offset ∈ ofLength (ofLength start x).stop y
      ↔ offset ∈ ofLength start (.ofNatClamp (x.toNat + y.toNat)) := by
  have hwhole : ILSpan.mk start (ofLength (ofLength start x).stop y).stop
      = ofLength start (.ofNatClamp (x.toNat + y.toNat)) := by
    rw [stop_ofLength_stop]
    rfl
  rw [← hwhole]
  exact mem_or_mem_iff (start_le_stop_ofLength start x) (start_le_stop_ofLength _ y)

/-! ## §4. All of it. -/

/-- **A span is the offsets from its start up to its end.**  Its length is
their number, and it is empty if there are none, also with reversed bounds.  A
span of given length covers the offsets that are less than the length behind
its start, the largest offset excepted.  Of two spans put end to end no offset
lies in both, and what lies in either is what lies in one span of the lengths'
clamped sum. -/
theorem offsets_clamped :
    (∀ s : ILSpan, s.len.toNat = s.offsets.card
        ∧ (s.isEmpty = true ↔ ∀ offset, offset ∉ s))
    ∧ (∀ start length offset : UInt32, offset ∈ ofLength start length ↔
        start ≤ offset ∧ offset - start < length ∧ offset ≠ 0xFFFFFFFF)
    ∧ (∀ start x y offset : UInt32,
        ¬ (offset ∈ ofLength start x ∧ offset ∈ ofLength (ofLength start x).stop y)
        ∧ (offset ∈ ofLength start x ∨ offset ∈ ofLength (ofLength start x).stop y
          ↔ offset ∈ ofLength start (.ofNatClamp (x.toNat + y.toNat)))) := by
  refine ⟨?_, ?_, ?_⟩
  · intro s
    exact ⟨(card_offsets s).symm, isEmpty_iff_forall s⟩
  · intro start length offset
    exact mem_ofLength_iff
  · intro start x y offset
    exact ⟨not_mem_and_mem rfl offset, mem_or_mem_ofLength_iff start x y offset⟩

end MethodListing.ILSpan
