/-
  MethodListing.Bytes.Cursor — BOUNDS-CHECKED READS.

  A read takes a number of fixed width at an offset and says where the next
  read starts.  One that would go beyond the data fails, and so does one whose
  end is no offset of 64 bits; the offset then stays where it was.  `attempts`
  makes one read after the other with a shared offset and goes on after
  failures.

  Offsets are plain numbers here.  `Bytes.MachineCursor` keeps them in 64 bits.

  Main results:
    * `readAt_eq_ok`    — a read that fits gives the little-endian number of
      its bytes and the offset behind them;
    * `readAt_eq_error` — a read that does not fit is out of bounds.
-/
import MethodListing.Bytes.LittleEndian
import MethodListing.DecodeError

namespace MethodListing

/-! ## §1. One read. -/

/-- How wide a number is. -/
inductive Width where
  /-- 8 bits. -/
  | byte
  /-- 16 bits. -/
  | half
  /-- 32 bits. -/
  | word
  /-- 64 bits. -/
  | double
  deriving Repr, DecidableEq

/-- The number of bytes of a width. -/
def Width.bytes : Width → Nat
  | .byte => 1
  | .half => 2
  | .word => 4
  | .double => 8

/-- The number held by exactly as many bytes as the width asks for. -/
def Width.ofBytes? (width : Width) (bytes : List UInt8) : Option Nat :=
  if bytes.length = width.bytes then some (LittleEndian.decode bytes) else none

/-- The offset `count` bytes further on; `none` if it does not fit the 64 bits
of an offset. -/
def advance? (offset count : Nat) : Option Nat :=
  if offset + count < UInt64.size then some (offset + count) else none

/-- The bytes from `start` up to `stop`; `none` if the two are reversed, or the
data ends before `stop`. -/
def sliceBytes? (data : List UInt8) (start stop : Nat) : Option (List UInt8) :=
  if start ≤ stop ∧ stop ≤ data.length then some ((data.drop start).take (stop - start)) else none

/-- **One bounds-checked read**: the number at `offset`, and the offset behind
it.  It fails if the end of the read does not fit, if it lies beyond the data,
or if the bytes found are not as many as the width asks for. -/
def readAt (width : Width) (data : List UInt8) (offset : Nat) :
    Except DecodeError (Nat × Nat) :=
  match advance? offset width.bytes with
  | none => .error .outOfBounds
  | some stop =>
    match sliceBytes? data offset stop with
    | none => .error .outOfBounds
    | some bytes =>
      match width.ofBytes? bytes with
      | none => .error .outOfBounds
      | some n => .ok (n, stop)

/-- A read at the start of the data. -/
def readFirst (width : Width) (data : List UInt8) : Except DecodeError Nat :=
  (readAt width data 0).map (·.1)

/-! ## §2. Reads in sequence. -/

/-- What one read of a sequence did. -/
structure Attempt where
  /-- The width asked for. -/
  width : Width
  /-- The offset before the read. -/
  start : Nat
  /-- The number read. -/
  outcome : Except DecodeError Nat
  /-- The offset after the read. -/
  stop : Nat

/-- Read once; a failure keeps the offset. -/
def attempt (data : List UInt8) (offset : Nat) (width : Width) : Attempt :=
  match readAt width data offset with
  | .ok (n, next) => ⟨width, offset, .ok n, next⟩
  | .error e => ⟨width, offset, .error e, offset⟩

/-- **Read one width after the other**, each where the one before it left the
offset, whether that one succeeded or not. -/
def attempts (data : List UInt8) : Nat → List Width → List Attempt
  | _, [] => []
  | offset, width :: widths =>
      let first := attempt data offset width
      first :: attempts data first.stop widths

/-- The offset after a sequence of reads that started at `offset`. -/
def finalOffset (offset : Nat) (reads : List Attempt) : Nat :=
  reads.foldl (fun _ read => read.stop) offset

/-! ## §3. When a read succeeds. -/

theorem advance?_eq_some_iff {offset count stop : Nat} :
    advance? offset count = some stop ↔ offset + count < UInt64.size ∧ offset + count = stop := by
  rw [advance?, Option.ite_none_right_eq_some, Option.some.injEq]

theorem sliceBytes?_eq_some {data : List UInt8} {offset count : Nat}
    (h : offset + count ≤ data.length) :
    sliceBytes? data offset (offset + count) = some ((data.drop offset).take count) := by
  rw [sliceBytes?, if_pos ⟨Nat.le_add_right _ _, h⟩, Nat.add_sub_cancel_left]

/-- Bytes that were found are as many as lie between the two offsets. -/
theorem length_of_sliceBytes? {data bytes : List UInt8} {start stop : Nat}
    (h : sliceBytes? data start stop = some bytes) : bytes.length = stop - start := by
  unfold sliceBytes? at h
  split at h
  · cases h
    simp only [List.length_take, List.length_drop]
    omega
  · exact absurd h (by simp)

/-- **Bytes that were found for a width have that width**, so that they always
make a number. -/
theorem ofBytes?_of_sliceBytes? {width : Width} {data bytes : List UInt8} {start : Nat}
    (h : sliceBytes? data start (start + width.bytes) = some bytes) :
    width.ofBytes? bytes = some (LittleEndian.decode bytes) := by
  have hlen := length_of_sliceBytes? h
  rw [Nat.add_sub_cancel_left] at hlen
  exact if_pos hlen

theorem readAt_eq_ok {width : Width} {data : List UInt8} {offset : Nat}
    (hend : offset + width.bytes < UInt64.size) (h : offset + width.bytes ≤ data.length) :
    readAt width data offset =
      .ok (LittleEndian.decode ((data.drop offset).take width.bytes), offset + width.bytes) := by
  have hstop := advance?_eq_some_iff.2 ⟨hend, rfl⟩
  have hslice := sliceBytes?_eq_some h
  simp only [readAt, hstop, hslice, ofBytes?_of_sliceBytes? hslice]

theorem readAt_eq_error {width : Width} {data : List UInt8} {offset : Nat}
    (h : data.length < offset + width.bytes) :
    readAt width data offset = .error .outOfBounds := by
  have hslice : sliceBytes? data offset (offset + width.bytes) = none :=
    if_neg fun hfits => absurd hfits.2 (Nat.not_le.2 h)
  unfold readAt
  cases hstop : advance? offset width.bytes with
  | none => rfl
  | some stop =>
      rw [← (advance?_eq_some_iff.1 hstop).2]
      simp only [hslice]

end MethodListing
