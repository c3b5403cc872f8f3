/-
  MethodListing.Proofs.CursorRun — READS IN SEQUENCE TAKE THE BYTES THEY RETURN.

  Numbers of different widths are read one after the other with one offset.
  A read that does not fit the data fails and keeps the offset, so that a
  narrower one may still succeed after it.  Where such a run ends, and what it
  has returned, says exactly which bytes it has taken: written out again, the
  numbers are the bytes between the first offset and the last.

  One read can do one of two things only, and `Performed` says which; all that
  holds of a run follows from that by induction on its reads.  It takes data
  whose length is an offset itself: an end that does not fit 64 bits is then
  beyond the data as well.

  Main results:
    * `Performed.encoding_eq`  — what one read takes;
    * `attempts_chained`       — each read starts where the last one stopped;
    * `encoding_attempts`      — what a run takes;
    * `pairwise_failed`        — after a failure, nothing as wide succeeds;
    * `attempts_take_bytes`    — the run, on a machine's offset.
-/
import MethodListing.Bytes.MachineCursor

namespace MethodListing

namespace Attempt

/-! ## §1. One read. -/

/-- The number read, written out again; nothing for a read that failed. -/
def encoding (read : Attempt) : List UInt8 :=
  match read.outcome with
  | .ok n => LittleEndian.encode read.width.bytes n
  | .error _ => []

/-- The read went beyond the data. -/
def Failed (read : Attempt) : Prop := read.outcome = .error .outOfBounds

/-- **What a read does**: one that fits the data returns the number there and
goes behind it, any other fails and stays. -/
inductive Performed (data : List UInt8) : Attempt → Prop where
  | fits {width : Width} {start : Nat} (h : start + width.bytes ≤ data.length) :
      Performed data ⟨width, start,
        .ok (LittleEndian.decode ((data.drop start).take width.bytes)), start + width.bytes⟩
  | beyond {width : Width} {start : Nat} (h : data.length < start + width.bytes) :
      Performed data ⟨width, start, .error .outOfBounds, start⟩

theorem performed_attempt {data : List UInt8} (hdata : data.length < UInt64.size) (offset : Nat)
    (width : Width) : Performed data (attempt data offset width) := by
  unfold attempt
  rcases Nat.lt_or_ge data.length (offset + width.bytes) with hbeyond | hfits
  · rw [readAt_eq_error hbeyond]
    exact .beyond hbeyond
  · rw [readAt_eq_ok (Nat.lt_of_le_of_lt hfits hdata) hfits]
    exact .fits hfits

namespace Performed

variable {data : List UInt8} {read : Attempt}

/-- It succeeds exactly if it fits. -/
theorem exists_ok_iff (h : Performed data read) :
    (∃ n, read.outcome = .ok n) ↔ read.start + read.width.bytes ≤ data.length := by
  cases h with
  | fits hfits => exact ⟨fun _ => hfits, fun _ => ⟨_, rfl⟩⟩
  | @beyond width start hbeyond =>
      constructor
      · intro hok
        obtain ⟨n, hn⟩ := hok
        cases hn
      · intro hfits
        exact absurd hfits (Nat.not_le.2 hbeyond)

theorem of_ok (h : Performed data read) {n : Nat} (hn : read.outcome = .ok n) :
    n = LittleEndian.decode ((data.drop read.start).take read.width.bytes)
    ∧ read.stop = read.start + read.width.bytes := by
  cases h with
  | fits hfits =>
      cases hn
      exact ⟨rfl, rfl⟩
  | beyond hbeyond => cases hn

theorem of_error (h : Performed data read) {e : DecodeError} (he : read.outcome = .error e) :
    e = .outOfBounds ∧ read.stop = read.start := by
  cases h with
  | fits hfits => cases he
  | beyond hbeyond =>
      cases he
      exact ⟨rfl, rfl⟩

theorem failed_iff (h : Performed data read) :
    read.Failed ↔ data.length < read.start + read.width.bytes := by
  unfold Failed
  cases h with
  | @fits width start hfits =>
      constructor
      · intro hfailed
        cases hfailed
      · intro hbeyond
        exact absurd hfits (Nat.not_le.2 hbeyond)
  | beyond hbeyond => exact ⟨fun _ => hbeyond, fun _ => rfl⟩

theorem start_le_stop (h : Performed data read) : read.start ≤ read.stop := by
  cases h with
  | fits _ => exact Nat.le_add_right _ _
  | beyond _ => exact Nat.le_refl _

theorem stop_le_max (h : Performed data read) : read.stop ≤ max read.start data.length := by
  cases h with
  | fits hfits => exact Nat.le_trans hfits (Nat.le_max_right _ _)
  | beyond _ => exact Nat.le_max_left _ _

/-- **What one read takes**: written out again, the number read is the bytes
between the offset before and the offset after. -/
theorem encoding_eq (h : Performed data read) :
    read.encoding = (data.drop read.start).take (read.stop - read.start)
    ∧ read.start + read.encoding.length = read.stop := by
  cases h with
  | @fits width start hfits =>
      have hlen : ((data.drop start).take width.bytes).length = width.bytes := by
        rw [List.length_take, List.length_drop]
        omega
      have hencode : LittleEndian.encode width.bytes
            (LittleEndian.decode ((data.drop start).take width.bytes))
          = (data.drop start).take width.bytes := by
        have h := LittleEndian.encode_decode ((data.drop start).take width.bytes)
        rwa [hlen] at h
      have hsub : start + width.bytes - start = width.bytes := by omega
      constructor
      · show LittleEndian.encode _ _ = (data.drop start).take (start + width.bytes - start)
        rw [hencode, hsub]
      · show start + (LittleEndian.encode _ _).length = start + width.bytes
        rw [LittleEndian.length_encode]
  | @beyond width start hbeyond =>
      constructor
      · show [] = (data.drop start).take (start - start)
        rw [Nat.sub_self, List.take_zero]
      · exact Nat.add_zero start

end Performed

end Attempt

/-! ## §2. Reads in sequence. -/

section Run

variable (data : List UInt8) (offset : Nat) (widths : List Width)

theorem start_attempt (width : Width) : (attempt data offset width).start = offset := by
  unfold attempt
  split
  · rfl
  · rfl

theorem width_attempt (width : Width) : (attempt data offset width).width = width := by
  unfold attempt
  split
  · rfl
  · rfl

theorem width_attempts : (attempts data offset widths).map (·.width) = widths := by
  induction widths generalizing offset with
  | nil => rfl
  | cons width widths ih =>
      show (attempt data offset width).width :: _ = _
      rw [width_attempt, ih]

/-- **Each read starts where the last one stopped**: the offsets before the
reads and the last offset of all are the first offset and the offsets after
the reads. -/
theorem attempts_chained :
    (attempts data offset widths).map (·.start)
        ++ [finalOffset offset (attempts data offset widths)]
      = offset :: (attempts data offset widths).map (·.stop) := by
  induction widths generalizing offset with
  | nil => rfl
  | cons width widths ih =>
      show (attempt data offset width).start :: _ = offset :: (attempt data offset width).stop :: _
      rw [start_attempt, ← ih]
      rfl

end Run

section RunWithin

-- from here on no end of a read is both within the data and too large for an offset

open Attempt

variable {data : List UInt8} (hdata : data.length < UInt64.size) (offset : Nat)
  (widths : List Width)

include hdata

theorem performed_of_mem_attempts :
    ∀ read ∈ attempts data offset widths, Performed data read := by
  induction widths generalizing offset with
  | nil =>
      intro read hread
      cases hread
  | cons width widths ih =>
      intro read hread
      cases hread with
      | head => exact performed_attempt hdata offset width
      | tail _ hread => exact ih _ read hread

theorem le_stop_attempt (width : Width) : offset ≤ (attempt data offset width).stop := by
  have h := (performed_attempt hdata offset width).start_le_stop
  rwa [start_attempt] at h

/-- No read of a run starts before the run. -/
theorem le_start_of_mem_attempts :
    ∀ read ∈ attempts data offset widths, offset ≤ read.start := by
  induction widths generalizing offset with
  | nil =>
      intro read hread
      cases hread
  | cons width widths ih =>
      intro read hread
      cases hread with
      | head => exact Nat.le_of_eq (start_attempt data offset width).symm
      | tail _ hread => exact Nat.le_trans (le_stop_attempt hdata offset width) (ih _ read hread)

/-- The offset never decreases. -/
theorem pairwise_stop_attempts :
    (offset :: (attempts data offset widths).map (·.stop)).Pairwise (· ≤ ·) := by
  induction widths generalizing offset with
  | nil => exact List.pairwise_singleton _ _
  | cons width widths ih =>
      have hstop := le_stop_attempt hdata offset width
      refine List.pairwise_cons.2 ⟨?_, ih _⟩
      intro stop hmem
      cases hmem with
      | head => exact hstop
      | tail _ hmem => exact Nat.le_trans hstop ((List.pairwise_cons.1 (ih _)).1 stop hmem)

/-- The offset never passes both the first offset and the end of the data. -/
theorem stop_le_of_mem_attempts :
    ∀ read ∈ attempts data offset widths, read.stop ≤ max offset data.length := by
  induction widths generalizing offset with
  | nil =>
      intro read hread
      cases hread
  | cons width widths ih =>
      have hfirst := (performed_attempt hdata offset width).stop_le_max
      rw [start_attempt] at hfirst
      intro read hread
      cases hread with
      | head => exact hfirst
      | tail _ hread =>
          have hread : read.stop ≤ max (attempt data offset width).stop data.length :=
            ih _ read hread
          omega

/-- **After a failure, nothing as wide succeeds**: the offset only grows, and
what did not fit at a smaller offset fits even less at a larger one. -/
theorem pairwise_failed :
    (attempts data offset widths).Pairwise fun earlier later =>
      earlier.Failed → earlier.width.bytes ≤ later.width.bytes → later.Failed := by
  induction widths generalizing offset with
  | nil => exact .nil
  | cons width widths ih =>
      refine List.pairwise_cons.2 ⟨?_, ih _⟩
      intro later hlater hfailed hwidth
      have hfirst := performed_attempt hdata offset width
      have hbeyond := hfirst.failed_iff.1 hfailed
      have hstart := hfirst.start_le_stop
      have hlaterStart := le_start_of_mem_attempts hdata _ widths later hlater
      refine (performed_of_mem_attempts hdata _ widths later hlater).failed_iff.2 ?_
      omega

/-- **What a run takes**: written out again, the numbers read are the bytes
between its first offset and its last. -/
theorem encoding_attempts :
    (attempts data offset widths).flatMap Attempt.encoding
        = (data.drop offset).take (finalOffset offset (attempts data offset widths) - offset)
    ∧ offset + ((attempts data offset widths).flatMap Attempt.encoding).length
        = finalOffset offset (attempts data offset widths) := by
  induction widths generalizing offset with
  | nil =>
      constructor
      · show [] = (data.drop offset).take (offset - offset)
        rw [Nat.sub_self, List.take_zero]
      · rfl
  | cons width widths ih =>
      obtain ⟨hfirst, hlenFirst⟩ := (performed_attempt hdata offset width).encoding_eq
      rw [start_attempt] at hfirst hlenFirst
      have hrun : attempts data offset (width :: widths) = attempt data offset width
          :: attempts data (attempt data offset width).stop widths := rfl
      obtain ⟨hrest, hlenRest⟩ := ih (attempt data offset width).stop
      rw [hrun, List.flatMap_cons]
      generalize attempts data (attempt data offset width).stop widths = rest at hrest hlenRest ⊢
      generalize attempt data offset width = first at hfirst hlenFirst hrest hlenRest ⊢
      have hfinal : finalOffset offset (first :: rest) = finalOffset first.stop rest := rfl
      rw [hfinal, List.length_append]
      refine ⟨?_, by omega⟩
      -- the bytes up to the final offset are those of the first read, and then the others
      have hsplit : finalOffset first.stop rest - offset
          = (first.stop - offset) + (finalOffset first.stop rest - first.stop) := by omega
      have hdrop : data.drop first.stop = (data.drop offset).drop (first.stop - offset) := by
        rw [List.drop_drop]
        congr 1
        omega
      rw [hfirst, hrest, hsplit, List.take_add, hdrop]

end RunWithin

/-! ## §3. The run on a machine. -/

/-- **Reads in sequence take the bytes they return.**  On data whose length
fits 64 bits, whatever offset of 64 bits the reads start at: the offset kept
in 64 bits goes the same way as the plain number.  Each read starts where the
last one stopped.  It succeeds exactly if its end, computed without wrapping,
is within the data; it then returns the little-endian number of its bytes and
goes behind them, and fails with `outOfBounds` and stays otherwise.  So the
offset never decreases, nor passes both the first offset and the end of the
data; a failure is followed by a failure of everything as wide; and the
numbers read, written out again, are the bytes from the first offset to the
last, as many as lie between the two.  No range that was found is ever turned
down for its width. -/
theorem attempts_take_bytes (data : List UInt8) (hdata : data.length < UInt64.size)
    (offset : UInt64) (widths : List Width) :
    let reads := attempts data offset.toNat widths
    let final := finalOffset offset.toNat reads
    (MachineCursor.attempts data offset widths).map (fun read => (read.1, read.2.toNat))
        = reads.map (fun read => (read.outcome, read.stop))
    ∧ reads.map (·.width) = widths
    ∧ reads.map (·.start) ++ [final] = offset.toNat :: reads.map (·.stop)
    ∧ (∀ read ∈ reads,
        ((∃ n, read.outcome = .ok n) ↔ read.start + read.width.bytes ≤ data.length)
        ∧ (∀ n, read.outcome = .ok n →
            n = LittleEndian.decode ((data.drop read.start).take read.width.bytes)
            ∧ read.stop = read.start + read.width.bytes)
        ∧ (∀ e, read.outcome = .error e → e = .outOfBounds ∧ read.stop = read.start))
    ∧ (offset.toNat :: reads.map (·.stop)).Pairwise (· ≤ ·)
    ∧ (∀ read ∈ reads, read.stop ≤ max offset.toNat data.length)
    ∧ (reads.Pairwise fun earlier later =>
        earlier.Failed → earlier.width.bytes ≤ later.width.bytes → later.Failed)
    ∧ reads.flatMap Attempt.encoding = (data.drop offset.toNat).take (final - offset.toNat)
    ∧ offset.toNat + (reads.flatMap Attempt.encoding).length = final
    ∧ (∀ (width : Width) (start stop : UInt64) (bytes : List UInt8),
        MachineCursor.advance? start width.bytes = some stop →
        MachineCursor.slice? data start stop = some bytes → width.ofBytes? bytes ≠ none) := by
  intro reads final
  obtain ⟨hbytes, hlength⟩ := encoding_attempts hdata offset.toNat widths
  refine ⟨MachineCursor.attempts_eq data offset widths, width_attempts _ _ _,
    attempts_chained _ _ _, ?_, pairwise_stop_attempts hdata _ _, stop_le_of_mem_attempts hdata _ _,
    pairwise_failed hdata _ _, hbytes, hlength, ?_⟩
  · intro read hread
    have hperformed := performed_of_mem_attempts hdata offset.toNat widths read hread
    exact ⟨hperformed.exists_ok_iff, fun n hn => hperformed.of_ok hn,
      fun e he => hperformed.of_error he⟩
  · intro width start stop bytes hstop hbytes hnone
    rw [MachineCursor.ofBytes?_of_slice? hstop hbytes] at hnone
    cases hnone

/-- Seven bytes, read from the second on: eight are too many, two and then
four are there, and then none is left.  At the largest offset not even one
byte is there, though its end would wrap around to the first. -/
theorem attempts_take_bytes_seven :
    (MachineCursor.attempts [1, 2, 3, 4, 5, 6, 7] 1 [.double, .half, .word, .byte]).map
        (fun read => (read.1, read.2.toNat))
      = [(.error .outOfBounds, 1), (.ok 0x0302, 3), (.ok 0x07060504, 7), (.error .outOfBounds, 7)]
    ∧ (attempts [1, 2, 3, 4, 5, 6, 7] 1 [.double, .half, .word, .byte]).flatMap Attempt.encoding
      = [2, 3, 4, 5, 6, 7]
    ∧ (MachineCursor.attempts [1, 2, 3, 4, 5, 6, 7] 0xFFFFFFFFFFFFFFFF [.byte]).map
        (fun read => (read.1, read.2.toNat)) = [(.error .outOfBounds, 0xFFFFFFFFFFFFFFFF)] := by
  have hlen : [(1 : UInt8), 2, 3, 4, 5, 6, 7].length < UInt64.size := by decide
  obtain ⟨hmachine, -, -, -, -, -, -, hbytes, -, -⟩ :=
    attempts_take_bytes _ hlen 1 [.double, .half, .word, .byte]
  obtain ⟨hlast, -⟩ := attempts_take_bytes _ hlen 0xFFFFFFFFFFFFFFFF [.byte]
  refine ⟨?_, ?_, ?_⟩
  · rw [hmachine]
    rfl
  · exact hbytes.trans rfl
  · rw [hlast]
    rfl

end MethodListing
