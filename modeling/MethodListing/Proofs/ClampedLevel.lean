/-
  MethodListing.Proofs.ClampedLevel — THE LEVEL, IN CLOSED FORM.

  A decrease at level zero is ignored, and from then on the level is one
  higher than what was asked for.  So the level after a run does not follow
  from how many increases and decreases there were, but from how deep they
  would have led below zero on the way.  What ties the level to the entries of
  the run is that nothing gets lost: what was asked for and what was ignored
  add up to the change of the level (`level_run_eq_add`).

  Main results:
    * `ignoredDecreases_apply` — an operation ignores what it asks for below
      zero, and nothing else;
    * `level_run_eq_add`       — what was asked for and what was ignored;
    * `run_clamped`            — level and warnings of any run.
-/
import Mathlib.Order.Bounds.Basic
import MethodListing.Listing.Balance
import MethodListing.Proofs.PageRun

namespace MethodListing

/-! ## §1. Warnings. -/

/-- The entry warns of a decrease at level zero. -/
def LogEntry.isUnbalancedDecrease : LogEntry → Bool
  | .unbalancedDecrease _ => true
  | _ => false

namespace Listing

/-- How many of the entries warn of a decrease at level zero, which is ignored. -/
def ignoredDecreases (log : List LogEntry) : Nat := log.countP LogEntry.isUnbalancedDecrease

theorem ignoredDecreases_append (log more : List LogEntry) :
    ignoredDecreases (log ++ more) = ignoredDecreases log + ignoredDecreases more :=
  List.countP_append

theorem ignoredDecreases_write (fragment : Fragment) (s : Listing) :
    ignoredDecreases (s.write fragment).log = 0 := by
  unfold write
  split <;> rfl

theorem ignoredDecreases_decreaseIndent (s : Listing) :
    (ignoredDecreases s.decreaseIndent.log : Int) = max 0 (1 - (s.level : Int)) := by
  have hlevel : s.level = s.page.level := rfl
  unfold decreaseIndent
  split
  · next h =>
    rw [hlevel, h]
    rfl
  · next h =>
    show (0 : Int) = _
    omega

theorem ignoredDecreases_attach (data : Attachment) (s : Listing) :
    ignoredDecreases (s.attach data).log = 0 := by
  cases data with
  | debugRecord r =>
      show ignoredDecreases (s.debug.accept r).log = 0
      unfold DebugSlots.accept
      split
      · rfl
      · split <;> rfl
  | _ => rfl

/-- **An operation ignores** what it asks for below zero, and nothing else. -/
theorem ignoredDecreases_apply (op : Operation) (s : Listing) :
    (ignoredDecreases (apply op s).log : Int) = max 0 (-((s.level : Int) + op.indentChange)) := by
  -- whatever asks for no decrease asks for nothing below zero
  have hnone : ∀ change : Int, 0 ≤ change → (0 : Int) = max 0 (-((s.level : Int) + change)) := by
    intro change hchange
    omega
  cases op using Operation.byForm with
  | write op fragment hf =>
      have hwritten : op.written? = some (fragment.content?.getD "") := by
        rw [written?_eq, hf]
        rfl
      rw [apply_of_fragment? hf, ignoredDecreases_write, indentChange_of_written? hwritten]
      exact hnone 0 (Int.le_refl 0)
  | writeLine => exact hnone 0 (Int.le_refl 0)
  | increaseIndent => exact hnone 1 (by decide)
  | decreaseIndent =>
      have hdecrease := ignoredDecreases_decreaseIndent s
      show (ignoredDecreases s.decreaseIndent.log : Int) = max 0 (-((s.level : Int) + -1))
      omega
  | attach data =>
      show ((ignoredDecreases (s.attach data).log : Nat) : Int) = _
      rw [ignoredDecreases_attach]
      exact hnone 0 (Int.le_refl 0)
  | announce token => exact hnone 0 (Int.le_refl 0)
  | reset => exact hnone 0 (Int.le_refl 0)

/-! ## §2. The level of a run. -/

/-- **Nothing gets lost**: what a run asks for and what it ignores add up to
the change of the level. -/
theorem level_run_eq_add {ops : List Operation} (h : ∀ op ∈ ops, op.isReset = false)
    (s : Listing) :
    ((run ops s).state.level : Int)
      = s.level + balance ops + ignoredDecreases (run ops s).log := by
  induction ops generalizing s with
  | nil => simp [ignoredDecreases]
  | cons op ops ih =>
      have htail := ih (fun o ho => h o (List.mem_cons_of_mem op ho)) (apply op s).state
      have hlevel := level_apply (h op List.mem_cons_self) s
      have hignored := ignoredDecreases_apply op s
      rw [Operation.relevel] at hlevel
      rw [state_run_cons, log_run_cons, ignoredDecreases_append, balance_cons, htail, hlevel]
      push_cast
      omega

/-- **Level and warnings of any run.**  Take the sums of the changes that the
first operations of a run ask for, and of all these sums the lowest, `-fall`.
The run ends at the sum of all changes above the level it started at, or above
`fall` if that is higher; and it warns as often as `fall` is higher than the
level it started at.  So a run in which no sum is negative changes the level
by what it asks for, and never warns, wherever it starts. -/
theorem run_clamped (s : Listing) {ops : List Operation} (h : ∀ op ∈ ops, op.isReset = false) :
    (∃ fall : Int,
      IsGreatest {x | ∃ n ≤ ops.length, x = -balance (ops.take n)} fall
      ∧ ((run ops s).state.level : Int) = balance ops + max (s.level : Int) fall
      ∧ (ignoredDecreases (run ops s).log : Int) = max 0 (fall - s.level))
    ∧ ((∀ n ≤ ops.length, 0 ≤ balance (ops.take n)) →
        ((run ops s).state.level : Int) = s.level + balance ops
        ∧ ignoredDecreases (run ops s).log = 0) := by
  have hlevel : ((run ops s).state.level : Int)
      = balance ops + max (s.level : Int) (deepestFall ops) := by
    rw [level_run h, levelAfter_eq]
  have hwarnings : (ignoredDecreases (run ops s).log : Int)
      = max 0 (deepestFall ops - s.level) := by
    have hsum := level_run_eq_add h s
    omega
  refine ⟨⟨deepestFall ops, isGreatest_deepestFall ops, hlevel, hwarnings⟩, ?_⟩
  intro hbalanced
  have hfall : deepestFall ops ≤ 0 := by
    rw [deepestFall_le_iff]
    intro n hn
    have hprefix := hbalanced n hn
    omega
  constructor
  · omega
  · omega

/-- From level one, two decreases of four are ignored; then a run that never
asks for less than it started with. -/
theorem run_clamped_two_ignored :
    ((run [.request .decreaseIndent, .request .decreaseIndent, .request (.writeText "x" .text),
          .request .increaseIndent, .request .decreaseIndent, .request .decreaseIndent,
          .request (.attach (.lineSeparator 0)), .request .increaseIndent,
          .request .increaseIndent]
        (run [.request .increaseIndent] (empty default)).state).state.level : Int)
      = -1 + max 1 3
    ∧ (ignoredDecreases (run [.request .decreaseIndent, .request .decreaseIndent,
          .request (.writeText "x" .text), .request .increaseIndent, .request .decreaseIndent,
          .request .decreaseIndent, .request (.attach (.lineSeparator 0)),
          .request .increaseIndent, .request .increaseIndent]
        (run [.request .increaseIndent] (empty default)).state).log : Int)
      = max 0 (3 - 1)
    ∧ ((run [.request .increaseIndent, .request .writeLine, .request .decreaseIndent]
        (empty default)).state.level : Int) = 0 + 0 := by
  obtain ⟨⟨fall, hfall, hlevel, hwarnings⟩, -⟩ :=
    @run_clamped (run [.request .increaseIndent] (empty default)).state
      [.request .decreaseIndent, .request .decreaseIndent, .request (.writeText "x" .text),
        .request .increaseIndent, .request .decreaseIndent, .request .decreaseIndent,
        .request (.attach (.lineSeparator 0)), .request .increaseIndent,
        .request .increaseIndent] (by decide)
  have hthree : fall = 3 := hfall.unique (isGreatest_deepestFall _)
  rw [hthree] at hlevel hwarnings
  have hbalanced := (@run_clamped (empty default)
    [.request .increaseIndent, .request .writeLine, .request .decreaseIndent] (by decide)).2
    (by decide)
  exact ⟨hlevel, hwarnings, hbalanced.1⟩

end Listing

end MethodListing
