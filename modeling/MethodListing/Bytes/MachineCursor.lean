/-
  MethodListing.Bytes.MachineCursor — A CURSOR IN 64 BITS.

  A machine adds modulo 2^64.  Near the largest offset the end of a read would
  wrap around, and a read that starts behind all of the data would seem to end
  inside it.  So the end is computed with a check, and a range of the data is
  asked for only after that.

  `Bytes.Cursor`, which everything else reads through, makes the same check on
  plain numbers, where no sum can wrap.  This module is there to say that it
  models the machine: the reads are made once more, with an offset of 64 bits
  and its addition, and come to the same.

  Main results:
    * `readAt_eq`   — a read at an offset of 64 bits is a read at its number;
    * `attempts_eq` — and the same for reads in sequence;
    * `ofBytes?_of_slice?` — a range that was found always has the width that
      was asked for.
-/
import MethodListing.Bytes.Cursor

namespace MethodListing.MachineCursor

/-! ## §1. Reading at 64 bits. -/

/-- The offset `count` bytes further on, if it fits. -/
def advance? (offset : UInt64) (count : Nat) : Option UInt64 :=
  if offset.toNat + count < UInt64.size then some (offset + UInt64.ofNat count) else none

/-- The bytes from `start` up to `stop`; `none` if the two are reversed, or the
data ends before `stop`. -/
def slice? (data : List UInt8) (start stop : UInt64) : Option (List UInt8) :=
  sliceBytes? data start.toNat stop.toNat

/-- **One read at a 64-bit offset**: the number there, and the offset behind
it.  It fails if the end of the read does not fit, if it lies beyond the data,
or if the bytes found are not as many as the width asks for. -/
def readAt (width : Width) (data : List UInt8) (offset : UInt64) :
    Except DecodeError (Nat × UInt64) :=
  match advance? offset width.bytes with
  | none => .error .outOfBounds
  | some stop =>
    match slice? data offset stop with
    | none => .error .outOfBounds
    | some bytes =>
      match width.ofBytes? bytes with
      | none => .error .outOfBounds
      | some n => .ok (n, stop)

/-- Read once; a failure keeps the offset.  The result is the number read and
the offset afterwards. -/
def attempt (data : List UInt8) (offset : UInt64) (width : Width) :
    Except DecodeError Nat × UInt64 :=
  match readAt width data offset with
  | .ok (n, next) => (.ok n, next)
  | .error e => (.error e, offset)

/-- **Read one width after the other** with one offset, going on after
failures. -/
def attempts (data : List UInt8) :
    UInt64 → List Width → List (Except DecodeError Nat × UInt64)
  | _, [] => []
  | offset, width :: widths =>
      let first := attempt data offset width
      first :: attempts data first.2 widths

/-! ## §2. The check. -/

/-- **The check is exact**: an offset is found exactly if it is the sum. -/
theorem advance?_eq_some_iff {offset stop : UInt64} {count : Nat} :
    advance? offset count = some stop ↔ stop.toNat = offset.toNat + count := by
  have hstop : stop.toNat < UInt64.size := stop.toNat_lt
  unfold advance?
  by_cases hfits : offset.toNat + count < UInt64.size
  · have hcount : (UInt64.ofNat count).toNat = count :=
      UInt64.toNat_ofNat_of_lt' (Nat.lt_of_le_of_lt (Nat.le_add_left _ _) hfits)
    have hsum : (offset + UInt64.ofNat count).toNat = offset.toNat + count := by
      rw [UInt64.toNat_add, hcount]
      exact Nat.mod_eq_of_lt hfits
    rw [if_pos hfits, Option.some.injEq, ← UInt64.toNat_inj, hsum]
    exact eq_comm
  · rw [if_neg hfits]
    constructor
    · intro h
      cases h
    · intro h
      omega

/-- So it is the check on plain numbers: what fits does not wrap. -/
theorem map_toNat_advance? (offset : UInt64) (count : Nat) :
    (advance? offset count).map UInt64.toNat = MethodListing.advance? offset.toNat count := by
  apply Option.ext
  intro stop
  rw [Option.map_eq_some_iff, MethodListing.advance?_eq_some_iff]
  constructor
  · rintro ⟨stop, hstop, rfl⟩
    have hsum := advance?_eq_some_iff.1 hstop
    exact ⟨hsum ▸ stop.toNat_lt, hsum.symm⟩
  · rintro ⟨hfits, rfl⟩
    have hround : (UInt64.ofNat (offset.toNat + count)).toNat = offset.toNat + count :=
      UInt64.toNat_ofNat_of_lt' hfits
    exact ⟨_, advance?_eq_some_iff.2 hround, hround⟩

/-- **A range that was found has the width that was asked for**, so that its
bytes always make a number. -/
theorem ofBytes?_of_slice? {width : Width} {data bytes : List UInt8} {offset stop : UInt64}
    (hstop : advance? offset width.bytes = some stop)
    (hbytes : slice? data offset stop = some bytes) :
    width.ofBytes? bytes = some (LittleEndian.decode bytes) := by
  rw [slice?, advance?_eq_some_iff.1 hstop] at hbytes
  exact ofBytes?_of_sliceBytes? hbytes

/-! ## §3. The numbers of the offsets. -/

variable (data : List UInt8)

/-- **A read at an offset of 64 bits is a read at its number.** -/
theorem readAt_eq (width : Width) (offset : UInt64) :
    (readAt width data offset).map (fun result => (result.1, result.2.toNat))
      = MethodListing.readAt width data offset.toNat := by
  unfold readAt MethodListing.readAt
  rw [← map_toNat_advance?]
  cases advance? offset width.bytes with
  | none => rfl
  | some stop =>
      simp only [slice?, Option.map_some]
      cases sliceBytes? data offset.toNat stop.toNat with
      | none => rfl
      | some bytes =>
          simp only
          cases width.ofBytes? bytes <;> rfl

theorem attempt_eq (offset : UInt64) (width : Width) :
    (attempt data offset width).1 = (MethodListing.attempt data offset.toNat width).outcome
    ∧ (attempt data offset width).2.toNat
        = (MethodListing.attempt data offset.toNat width).stop := by
  have hread := readAt_eq data width offset
  unfold attempt MethodListing.attempt
  rw [← hread]
  cases readAt width data offset with
  | ok result => exact ⟨rfl, rfl⟩
  | error e => exact ⟨rfl, rfl⟩

/-- **Reads in sequence at offsets of 64 bits** have the same outcomes and
leave the same offsets. -/
theorem attempts_eq (offset : UInt64) (widths : List Width) :
    (attempts data offset widths).map (fun read => (read.1, read.2.toNat))
      = (MethodListing.attempts data offset.toNat widths).map
          (fun read => (read.outcome, read.stop)) := by
  induction widths generalizing offset with
  | nil => rfl
  | cons width widths ih =>
      obtain ⟨houtcome, hstop⟩ := attempt_eq data offset width
      show ((attempt data offset width).1, (attempt data offset width).2.toNat) :: _ = _ :: _
      rw [ih, houtcome, hstop]

end MethodListing.MachineCursor
