/-
  MethodListing.Bytes.LittleEndian — NUMBERS AS BYTES, LOW BYTE FIRST.

  Main results:
    * `decode_encode` — `count` bytes hold any number below `capacity count`;
    * `encode_decode` — and bytes are the only encoding of what they hold;
    * `decode_lt`     — so a decoded number is bounded by its length.
-/

namespace MethodListing.LittleEndian

/-- How many different numbers `count` bytes can hold. -/
def capacity : Nat → Nat
  | 0 => 1
  | count + 1 => 256 * capacity count

/-- The number that bytes hold, low byte first. -/
def decode : List UInt8 → Nat
  | [] => 0
  | byte :: bytes => byte.toNat + 256 * decode bytes

/-- The lowest `count` bytes of a number, low byte first. -/
def encode : Nat → Nat → List UInt8
  | 0, _ => []
  | count + 1, n => UInt8.ofNat (n % 256) :: encode count (n / 256)

@[simp] theorem length_encode (count n : Nat) : (encode count n).length = count := by
  induction count generalizing n with
  | zero => rfl
  | succ count ih => simp [encode, ih]

theorem decode_lt (bytes : List UInt8) : decode bytes < capacity bytes.length := by
  induction bytes with
  | nil => decide
  | cons byte bytes ih =>
    have hb := byte.toNat_lt
    simp only [decode, List.length_cons, capacity]
    omega

theorem decode_encode (count n : Nat) (h : n < capacity count) :
    decode (encode count n) = n := by
  induction count generalizing n with
  | zero =>
    have h0 : n = 0 := by
      simp only [capacity] at h
      omega
    simp [encode, decode, h0]
  | succ count ih =>
    have hq : n / 256 < capacity count := by
      simp only [capacity] at h
      omega
    have hbyte : (UInt8.ofNat (n % 256)).toNat = n % 256 := by simp
    rw [encode, decode, ih _ hq, hbyte]
    omega

theorem encode_decode (bytes : List UInt8) : encode bytes.length (decode bytes) = bytes := by
  induction bytes with
  | nil => rfl
  | cons byte bytes ih =>
    have hb := byte.toNat_lt
    have hlow : (byte.toNat + 256 * decode bytes) % 256 = byte.toNat := by omega
    have hhigh : (byte.toNat + 256 * decode bytes) / 256 = decode bytes := by omega
    simp only [List.length_cons, decode, encode, hlow, hhigh, ih, UInt8.ofNat_toNat]

end MethodListing.LittleEndian
