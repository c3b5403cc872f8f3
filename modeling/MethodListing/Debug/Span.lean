/-
  MethodListing.Debug.Span — PLACES IN CODE AND IN TEXT.

  A span of code is a half-open interval of 32-bit offsets given by its two
  bounds; a span of text is a start and a length in 64 bits.  Ends that do
  not fit are clamped to the largest number that does.

  Main results:
    * `ILSpan.mem_iff`     — which offsets lie in a span;
    * `ILSpan.toNat_len`   — its length, with reversed bounds giving zero;
    * `ILSpan.isEmpty_iff` — a span is empty exactly if its length is zero;
    * `ILSpan.toNat_stop_ofLength` — where a span of some length ends.
-/

namespace MethodListing

/-! ## §1. Spans of code. -/

/-- A half-open interval `[start, stop)` of code offsets.  Nothing is required
of the bounds: with `stop ≤ start` no offset lies inside. -/
structure ILSpan where
  /-- First offset covered. -/
  start : UInt32
  /-- First offset no longer covered. -/
  stop : UInt32
  deriving Repr, DecidableEq, Inhabited

namespace ILSpan

/-- The span of `length` offsets from `start` on, cut off at the largest
offset. -/
def ofLength (start length : UInt32) : ILSpan :=
  ⟨start, .ofNatClamp (start.toNat + length.toNat)⟩

theorem toNat_ofNatClamp (n : Nat) : (UInt32.ofNatClamp n).toNat = min n (UInt32.size - 1) := by
  by_cases h : n < UInt32.size
  · rw [UInt32.ofNatClamp_eq_ofNat n h, UInt32.toNat_ofNat_of_lt' h]
    omega
  · rw [UInt32.ofNatClamp, dif_neg h, UInt32.toNat_ofNatLT]
    omega

theorem toNat_stop_ofLength (start length : UInt32) :
    (ofLength start length).stop.toNat
      = min (start.toNat + length.toNat) (UInt32.size - 1) := toNat_ofNatClamp _

/-- The number of offsets covered. -/
def len (s : ILSpan) : UInt32 := if s.start ≤ s.stop then s.stop - s.start else 0

/-- Whether no offset is covered. -/
def isEmpty (s : ILSpan) : Bool := s.stop ≤ s.start

/-- An offset lies in a span if it is at least the start and below the end. -/
instance : Membership UInt32 ILSpan := ⟨fun s offset => s.start ≤ offset ∧ offset < s.stop⟩

theorem mem_iff {s : ILSpan} {offset : UInt32} :
    offset ∈ s ↔ s.start ≤ offset ∧ offset < s.stop := Iff.rfl

instance (s : ILSpan) (offset : UInt32) : Decidable (offset ∈ s) :=
  decidable_of_iff _ mem_iff.symm

theorem mem_iff_toNat {s : ILSpan} {offset : UInt32} :
    offset ∈ s ↔ s.start.toNat ≤ offset.toNat ∧ offset.toNat < s.stop.toNat := by
  rw [mem_iff, UInt32.le_iff_toNat_le, UInt32.lt_iff_toNat_lt]

theorem toNat_len (s : ILSpan) : s.len.toNat = s.stop.toNat - s.start.toNat := by
  unfold len
  split
  · rename_i h
    exact UInt32.toNat_sub_of_le _ _ h
  · rename_i h
    have : s.stop.toNat < s.start.toNat := UInt32.lt_iff_toNat_lt.1 (UInt32.not_le.1 h)
    simp only [UInt32.toNat_zero]
    omega

theorem isEmpty_iff (s : ILSpan) : s.isEmpty = true ↔ s.len = 0 := by
  rw [← UInt32.toNat_inj, toNat_len]
  simp only [isEmpty, decide_eq_true_eq, UInt32.le_iff_toNat_le, UInt32.toNat_zero]
  omega

end ILSpan

/-! ## §2. Spans of text. -/

/-- A piece of the listing, in bytes. -/
structure TextSpan where
  /-- Offset of its first byte. -/
  start : UInt64
  /-- Its number of bytes. -/
  length : UInt64
  deriving Repr, DecidableEq, Inhabited

/-- The offset behind a piece of the listing, clamped. -/
def TextSpan.stop (s : TextSpan) : UInt64 :=
  .ofNatClamp (s.start.toNat + s.length.toNat)

/-! ## §3. Statements. -/

/-- Which text was written for which instructions. -/
structure Statement where
  /-- The instructions. -/
  code : ILSpan
  /-- Their text. -/
  text : TextSpan
  deriving Repr, DecidableEq

end MethodListing
