/-
  MethodListing.Listing.Balance — INCREASES AGAINST DECREASES.

  The BALANCE of a sequence is by how much its operations ask to change the
  indentation level together.  That is what they get, as long as the level
  does not have to fall below zero on the way.  Whether it has to depends on
  the DEEPEST FALL: of all that a sequence starts with, the part whose balance
  is lowest.

  Main results:
    * `isGreatest_deepestFall`   — the deepest fall, in terms of balances;
    * `deepestFall_le_iff`       — a level that is high enough for a sequence;
    * `deepestFall_append`       — two sequences, one after the other;
    * `levelAfter_eq`            — the level after a sequence, without going
      through it.
-/
import Mathlib.Order.Bounds.Defs
import MethodListing.Listing.Effects
import MethodListing.Listing.Rendering

namespace MethodListing.Listing

/-! ## §1. Balance and fall. -/

/-- What the operations ask for together: increases count one, decreases
minus one. -/
def balance : List Operation → Int
  | [] => 0
  | op :: ops => op.indentChange + balance ops

/-- **The deepest fall**: the most by which decreases outnumber increases in
what the operations start with. -/
def deepestFall : List Operation → Int
  | [] => 0
  | op :: ops => max 0 (deepestFall ops - op.indentChange)

@[simp] theorem balance_nil : balance [] = 0 := rfl

@[simp] theorem balance_cons (op : Operation) (ops : List Operation) :
    balance (op :: ops) = op.indentChange + balance ops := rfl

@[simp] theorem deepestFall_nil : deepestFall [] = 0 := rfl

theorem deepestFall_nonneg (ops : List Operation) : 0 ≤ deepestFall ops := by
  cases ops with
  | nil => exact Int.le_refl 0
  | cons op ops => exact Int.le_max_left _ _

/-- The second sequence falls from where the first one has led. -/
theorem deepestFall_append (ops more : List Operation) :
    deepestFall (ops ++ more) = max (deepestFall ops) (deepestFall more - balance ops) := by
  induction ops with
  | nil =>
      have hnonneg := deepestFall_nonneg more
      rw [List.nil_append, deepestFall_nil, balance_nil]
      omega
  | cons op ops ih =>
      rw [List.cons_append, deepestFall, deepestFall, ih, balance_cons]
      omega

/-! ## §2. The fall, from the balances. -/

theorem neg_balance_take_le (ops : List Operation) (n : Nat) :
    -balance (ops.take n) ≤ deepestFall ops := by
  induction ops generalizing n with
  | nil => simp
  | cons op ops ih =>
      have hnonneg := deepestFall_nonneg (op :: ops)
      cases n with
      | zero => simpa using hnonneg
      | succ n =>
          have htail := ih n
          rw [List.take_succ_cons, balance_cons, deepestFall]
          omega

theorem exists_neg_balance_take_eq (ops : List Operation) :
    ∃ n ≤ ops.length, deepestFall ops = -balance (ops.take n) := by
  induction ops with
  | nil => exact ⟨0, Nat.le_refl 0, rfl⟩
  | cons op ops ih =>
      obtain ⟨n, hn, hfall⟩ := ih
      -- either the fall behind `op` counts, or nothing is the best start
      by_cases hop : 0 ≤ deepestFall ops - op.indentChange
      · refine ⟨n + 1, Nat.succ_le_succ hn, ?_⟩
        rw [deepestFall, List.take_succ_cons, balance_cons]
        omega
      · refine ⟨0, Nat.zero_le _, ?_⟩
        rw [deepestFall, List.take_zero, balance_nil]
        omega

/-- **The deepest fall** is the greatest of the falls of what the operations
start with. -/
theorem isGreatest_deepestFall (ops : List Operation) :
    IsGreatest {fall | ∃ n ≤ ops.length, fall = -balance (ops.take n)} (deepestFall ops) := by
  constructor
  · exact exists_neg_balance_take_eq ops
  · rintro fall ⟨n, -, hfall⟩
    rw [hfall]
    exact neg_balance_take_le ops n

/-- A level is high enough exactly if no start of the sequence falls below
it. -/
theorem deepestFall_le_iff {ops : List Operation} {level : Int} :
    deepestFall ops ≤ level ↔ ∀ n ≤ ops.length, -balance (ops.take n) ≤ level := by
  constructor
  · intro h n _
    exact Int.le_trans (neg_balance_take_le ops n) h
  · intro h
    obtain ⟨n, hn, hfall⟩ := exists_neg_balance_take_eq ops
    rw [hfall]
    exact h n hn

/-! ## §3. The level. -/

/-- At a level that is high enough, an operation gets what it asks for, and
the rest finds a level that is high enough again. -/
theorem relevel_of_deepestFall_le {level : Nat} {op : Operation} {ops : List Operation}
    (h : deepestFall (op :: ops) ≤ level) :
    (op.relevel level : Int) = level + op.indentChange ∧ deepestFall ops ≤ op.relevel level := by
  have hnonneg := deepestFall_nonneg ops
  rw [deepestFall] at h
  rw [Operation.relevel]
  omega

open Rendering

/-- **The level after a sequence** is its balance above the level before, or
above the deepest fall if that is higher. -/
theorem levelAfter_eq (level : Nat) (ops : List Operation) :
    (levelAfter level ops : Int) = balance ops + max (level : Int) (deepestFall ops) := by
  induction ops generalizing level with
  | nil => simp [levelAfter]
  | cons op ops ih =>
      have hnonneg := deepestFall_nonneg ops
      have hcons : levelAfter level (op :: ops) = levelAfter (op.relevel level) ops := rfl
      rw [hcons, ih, deepestFall, balance_cons, Operation.relevel]
      omega

/-- At a level that is high enough, the change is the balance. -/
theorem levelAfter_of_deepestFall_le {level : Nat} {ops : List Operation}
    (h : deepestFall ops ≤ level) : (levelAfter level ops : Int) = level + balance ops := by
  rw [levelAfter_eq]
  omega

/-- So from a higher level the change is the same. -/
theorem levelAfter_add {level : Nat} {ops : List Operation} (h : deepestFall ops ≤ level)
    (k : Nat) : levelAfter (level + k) ops = levelAfter level ops + k := by
  have hlevel := levelAfter_of_deepestFall_le h
  have hhigher := @levelAfter_of_deepestFall_le (level + k) ops (by omega)
  omega

/-- Line ends do not ask for a change of the level. -/
theorem deepestFall_flatten_segments (ops : List Operation) :
    deepestFall (segments ops).flatten = deepestFall ops := by
  induction ops with
  | nil => rfl
  | cons op ops ih =>
      by_cases hbreak : op.isLineBreak = true
      · have hnonneg := deepestFall_nonneg ops
        have hchange : op.indentChange = 0 := by
          rw [Operation.eq_writeLine_of_isLineBreak hbreak]
          rfl
        rw [segments_cons_of_isLineBreak hbreak, List.flatten_cons, List.nil_append, ih,
          deepestFall, hchange]
        omega
      · obtain ⟨segment, later, hsegments⟩ := exists_segments ops
        rw [hsegments] at ih
        rw [segments_cons (by simpa using hbreak) hsegments, deepestFall, ← ih]
        rfl

end MethodListing.Listing
