/-
  MethodListing.Text.Hex — NUMBERS IN LOWERCASE HEXADECIMAL.

  Tokens are printed with a FIXED number of digits, leading zeros included,
  while leftover flag bits are printed with as FEW digits as they need.
  Both are `fixed`, applied to different widths.

  Main results:
    * `length_fixed`    — `fixed w n` has exactly `w` digits;
    * `read?_fixed`     — they read back to `n`, provided `n < capacity w`;
    * `digitValue?_digit` — the one-digit case both rest on;
    * `isDigit_of_mem_fixed` — they are lowercase digits and nothing else;
    * `literal_lt_literal_iff` — texts of one width are ordered as the numbers.
-/

namespace MethodListing.Hex

/-! ## §1. Writing. -/

/-- The digit of `d < 16`. -/
def digit (d : Nat) : Char :=
  if d < 10 then Char.ofNat ('0'.toNat + d) else Char.ofNat ('a'.toNat + (d - 10))

/-- The last `width` hexadecimal digits of `n`, most significant first. -/
def fixed : Nat → Nat → List Char
  | 0, _ => []
  | width + 1, n => fixed width (n / 16) ++ [digit (n % 16)]

/-- How many different numbers `width` digits can show. -/
def capacity : Nat → Nat
  | 0 => 1
  | width + 1 => 16 * capacity width

/-- How many digits `n` needs; zero needs one. -/
def digitCount (n : Nat) : Nat := n.log2 / 4 + 1

/-- **`n` without leading zeros.** -/
def shortest (n : Nat) : List Char := fixed (digitCount n) n

/-- The text `0x` followed by `width` digits. -/
def literal (width n : Nat) : String := "0x" ++ String.ofList (fixed width n)

/-- The text `0x` followed by no more digits than needed. -/
def shortLiteral (n : Nat) : String := "0x" ++ String.ofList (shortest n)

/-! ## §2. Reading. -/

/-- The value of a lowercase hexadecimal digit; no other character has one. -/
def digitValue? (c : Char) : Option Nat :=
  if '0' ≤ c ∧ c ≤ '9' then some (c.toNat - '0'.toNat)
  else if 'a' ≤ c ∧ c ≤ 'f' then some (10 + (c.toNat - 'a'.toNat))
  else none

/-- Read digits behind those that already gave `acc`. -/
def readFrom? (acc : Nat) : List Char → Option Nat
  | [] => some acc
  | c :: cs => (digitValue? c).bind fun d => readFrom? (16 * acc + d) cs

/-- **The number that lowercase hexadecimal digits stand for**, most
significant first; `none` if any character is not such a digit. -/
def read? (cs : List Char) : Option Nat := readFrom? 0 cs

/-! ## §3. Writing, then reading. -/

theorem digitValue?_digit : ∀ d, d < 16 → digitValue? (digit d) = some d := by decide

@[simp] theorem length_fixed (width n : Nat) : (fixed width n).length = width := by
  induction width generalizing n with
  | zero => rfl
  | succ width ih => simp [fixed, ih]

/-- All digits but the last show the quotient by 16. -/
theorem div_lt_capacity {width n : Nat} (h : n < capacity (width + 1)) :
    n / 16 < capacity width := by
  simp only [capacity] at h
  omega

theorem readFrom?_append (acc : Nat) (xs ys : List Char) :
    readFrom? acc (xs ++ ys) = (readFrom? acc xs).bind fun m => readFrom? m ys := by
  induction xs generalizing acc with
  | nil => rfl
  | cons c xs ih =>
    simp only [List.cons_append, readFrom?]
    cases digitValue? c with
    | none => rfl
    | some d => exact ih _

/-- **Fixed-width digits read back**, whatever was read before them. -/
theorem readFrom?_fixed (width acc n : Nat) (h : n < capacity width) :
    readFrom? acc (fixed width n) = some (acc * capacity width + n) := by
  induction width generalizing n with
  | zero =>
    have h0 : n = 0 := by
      simp only [capacity] at h
      omega
    simp [fixed, readFrom?, capacity, h0]
  | succ width ih =>
    rw [fixed, readFrom?_append, ih _ (div_lt_capacity h)]
    simp only [Option.bind_some, readFrom?, digitValue?_digit _ (Nat.mod_lt n (by decide))]
    congr 1
    have hw : acc * capacity (width + 1) = 16 * (acc * capacity width) := by
      rw [capacity]
      ac_rfl
    omega

theorem read?_fixed (width n : Nat) (h : n < capacity width) :
    read? (fixed width n) = some n := by
  simpa [read?] using readFrom?_fixed width 0 n h

/-! ## §4. The digits, and the order of texts. -/

/-- A lowercase hexadecimal digit. -/
def IsDigit (c : Char) : Prop := '0' ≤ c ∧ c ≤ '9' ∨ 'a' ≤ c ∧ c ≤ 'f'

instance : DecidablePred IsDigit := fun _ => inferInstanceAs (Decidable (_ ∨ _))

theorem isDigit_digit : ∀ d, d < 16 → IsDigit (digit d) := by decide

theorem digit_lt_digit_iff : ∀ c, c < 16 → ∀ d, d < 16 → (digit c < digit d ↔ c < d) := by decide

theorem isDigit_of_mem_fixed {width n : Nat} {c : Char} (h : c ∈ fixed width n) : IsDigit c := by
  induction width generalizing n with
  | zero => exact absurd h List.not_mem_nil
  | succ width ih =>
      rw [fixed, List.mem_append, List.mem_singleton] at h
      rcases h with hfront | rfl
      · exact ih hfront
      · exact isDigit_digit _ (Nat.mod_lt n (by decide))

theorem fixed_inj {width n m : Nat} (hn : n < capacity width) (hm : m < capacity width) :
    fixed width n = fixed width m ↔ n = m := by
  constructor
  · intro h
    have hread : some n = some m := by rw [← read?_fixed width n hn, h, read?_fixed width m hm]
    exact Option.some.inj hread
  · exact congrArg _

/-- A last character decides only between texts that are otherwise the same. -/
theorem append_singleton_lt_iff {xs ys : List Char} (h : xs.length = ys.length) (c d : Char) :
    xs ++ [c] < ys ++ [d] ↔ xs < ys ∨ xs = ys ∧ c < d := by
  induction xs generalizing ys with
  | nil =>
      cases ys with
      | nil => simp [List.cons_lt_cons_iff]
      | cons y ys => exact absurd h (by simp)
  | cons x xs ih =>
      cases ys with
      | nil => exact absurd h (by simp)
      | cons y ys =>
          have hlength : xs.length = ys.length := Nat.succ.inj h
          rw [List.cons_append, List.cons_append, List.cons_lt_cons_iff, List.cons_lt_cons_iff,
            ih hlength, List.cons.injEq, and_or_left, or_assoc, and_assoc]

/-- **Digits of one width are ordered as the numbers are.** -/
theorem fixed_lt_fixed_iff {width n m : Nat} (hn : n < capacity width) (hm : m < capacity width) :
    fixed width n < fixed width m ↔ n < m := by
  induction width generalizing n m with
  | zero =>
      simp only [capacity] at hn hm
      simp only [fixed, List.lt_irrefl, false_iff]
      omega
  | succ width ih =>
      have hn' := div_lt_capacity hn
      have hm' := div_lt_capacity hm
      have hlength : (fixed width (n / 16)).length = (fixed width (m / 16)).length := by simp
      rw [fixed, fixed, append_singleton_lt_iff hlength, ih hn' hm', fixed_inj hn' hm',
        digit_lt_digit_iff _ (Nat.mod_lt n (by decide)) _ (Nat.mod_lt m (by decide))]
      -- left are quotients and remainders by 16, compared as the digits were
      omega

theorem toList_literal (width n : Nat) :
    (literal width n).toList = '0' :: 'x' :: fixed width n := by
  simp [literal]

theorem literal_inj {width n m : Nat} (hn : n < capacity width) (hm : m < capacity width) :
    literal width n = literal width m ↔ n = m := by
  rw [literal, literal, String.append_right_inj, String.ofList_inj, fixed_inj hn hm]

theorem literal_lt_literal_iff {width n m : Nat} (hn : n < capacity width)
    (hm : m < capacity width) : literal width n < literal width m ↔ n < m := by
  rw [String.lt_iff, toList_literal, toList_literal, List.cons_lt_cons_iff, List.cons_lt_cons_iff,
    fixed_lt_fixed_iff hn hm]
  simp

end MethodListing.Hex
