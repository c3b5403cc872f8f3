/-
  MethodListing.Proofs.LoggedLosses — NOTHING IS LOST WITHOUT AN ENTRY.

  Writing never fails, but some of what a producer asks for cannot be done:
  a decrease at level zero, a fragment with an invalid range, a record of
  another method, data that is no record.  Each of these makes an entry, and
  apart from the entry it does nothing; only the fragment still begins its
  line, as a write of the empty text would.  So the entries of a run tell
  which operations could have been left out of it.

  An operation has one of four outcomes (`Outcome`), and everything here
  follows from them.

  Main results:
    * `outcome_apply`   — the outcomes of an operation;
    * `run_remainder`, `run_reduced` — what the entries leave of an operation,
      and of a run, comes to the same without losses;
    * `reduced_run_loses_nothing`    — the reduced run, and what operations
      without entries do.
-/
import MethodListing.Proofs.SourceSpan

namespace MethodListing

/-! ## §1. What is left of a run. -/

/-- The entry says that its operation was not taken at all. -/
def LogEntry.isRejection : LogEntry → Bool
  | .unbalancedDecrease _ => true
  | .droppedRecord _ _ => true
  | .ignoredAttachment _ => true
  | .invalidRange _ _ => false
  | .attachedToKickoff _ _ => false

/-- The entry says that a fragment was written without its content. -/
def LogEntry.isInvalidRange : LogEntry → Bool
  | .invalidRange _ _ => true
  | _ => false

/-- The same state, and of the entries those that report no loss. -/
def Logged.withoutLosses {σ : Type} (x : Logged σ) : Logged σ :=
  ⟨x.state, x.log.filter fun entry => !entry.isLoss⟩

theorem Logged.withoutLosses_andThen {σ τ : Type} (x : Logged σ) (next : σ → Logged τ) :
    (x.andThen next).withoutLosses
      = x.withoutLosses.andThen fun state => (next state).withoutLosses := by
  unfold withoutLosses andThen
  rw [List.filter_append]

namespace Listing

/-- **What its entries leave of an operation**: nothing, if one of them says
that it was not taken; a write of the empty text, if one of them says that its
content was skipped. -/
def remainder (op : Operation) (log : List LogEntry) : List Operation :=
  if log.any LogEntry.isRejection then []
  else if log.any LogEntry.isInvalidRange then [.request (.writeText "" .text)]
  else [op]

/-- **The reduced run**: what its entries leave of each operation. -/
def reduced : List Operation → Listing → List Operation
  | [], _ => []
  | op :: ops, s => remainder op (apply op s).log ++ reduced ops (apply op s).state

/-! ## §2. The outcomes of an operation. -/

/-- How an operation can end. -/
inductive Outcome (s : Listing) : Logged Listing → Prop where
  /-- It is taken, and there is nothing to report. -/
  | taken (after : Listing) : Outcome s (.silent after)
  /-- It is taken, as a record that counts through its kickoff method. -/
  | takenViaKickoff (after : Listing) (method announced : Token) :
      Outcome s (.noting after (.attachedToKickoff method announced))
  /-- It is not taken. -/
  | rejected (entry : LogEntry) (h : entry.isRejection = true) : Outcome s (.noting s entry)
  /-- It begins the line, and its content is skipped. -/
  | skipped (range : ByteRange) (size : Nat) :
      Outcome s (.noting { s with page := s.page.append "" } (.invalidRange range size))

theorem outcome_write (fragment : Fragment) (s : Listing) : Outcome s (s.write fragment) := by
  unfold write
  split
  · exact .taken _
  · -- to begin the line is to append nothing to it
    rw [← Page.append_empty]
    exact .skipped _ _

theorem outcome_decreaseIndent (s : Listing) : Outcome s s.decreaseIndent := by
  unfold decreaseIndent
  split
  · exact .rejected _ rfl
  · exact .taken _

theorem outcome_attach (data : Attachment) (s : Listing) : Outcome s (s.attach data) := by
  cases data with
  | debugRecord r =>
      show Outcome s ((s.debug.accept r).map fun debug => { s with debug := debug })
      by_cases hown : r.method.token = s.debug.announced
      · rw [DebugSlots.accept_own hown]
        exact .taken _
      · cases hstarted : r.isStartedBy s.debug.announced with
        | true =>
            rw [DebugSlots.accept_viaKickoff hown hstarted]
            exact .takenViaKickoff _ _ _
        | false =>
            rw [DebugSlots.accept_unrelated hown hstarted]
            exact .rejected _ rfl
  | _ => exact .rejected _ rfl

/-- **The outcomes of an operation.** -/
theorem outcome_apply (op : Operation) (s : Listing) : Outcome s (apply op s) := by
  cases op using Operation.byForm with
  | write op fragment hf =>
      rw [apply_of_fragment? hf]
      exact outcome_write fragment s
  | writeLine => exact .taken _
  | increaseIndent => exact .taken _
  | decreaseIndent => exact outcome_decreaseIndent s
  | attach data => exact outcome_attach data s
  | announce token => exact .taken _
  | reset => exact .taken _

theorem length_log_apply_le_one (op : Operation) (s : Listing) : (apply op s).log.length ≤ 1 := by
  have houtcome := outcome_apply op s
  generalize apply op s = x at houtcome
  cases houtcome <;> simp

/-! ## §3. The reduced run. -/

/-- **What is left of an operation** comes to the same without losses. -/
theorem run_remainder (op : Operation) (s : Listing) :
    run (remainder op (apply op s).log) s = (apply op s).withoutLosses := by
  have houtcome := outcome_apply op s
  generalize hx : apply op s = x at houtcome
  -- what is left is known for each outcome: the operation, a write, or nothing
  cases houtcome with
  | taken after =>
      show run [op] s = _
      rw [run_singleton, hx]
      rfl
  | takenViaKickoff after method announced =>
      show run [op] s = _
      rw [run_singleton, hx]
      rfl
  | rejected entry h =>
      have hloss : entry.isLoss = true := by
        cases entry with
        | attachedToKickoff method announced => cases h
        | _ => rfl
      simp [remainder, h, Logged.withoutLosses, hloss, Logged.silent]
  | skipped range size =>
      show run [.request (.writeText "" .text)] s = _
      rw [run_singleton]
      rfl

/-- **The reduced run** comes to the same without losses. -/
theorem run_reduced (ops : List Operation) (s : Listing) :
    run (reduced ops s) s = (run ops s).withoutLosses := by
  induction ops generalizing s with
  | nil => rfl
  | cons op ops ih =>
      show run (remainder op (apply op s).log ++ reduced ops (apply op s).state) s
        = ((apply op s).andThen (run ops)).withoutLosses
      rw [run_append, run_remainder, Logged.withoutLosses_andThen]
      -- the first operation ends in the same state either way
      show Logged.mk _ _ = Logged.mk _ _
      rw [show (apply op s).withoutLosses.state = (apply op s).state from rfl, ih]

/-! ## §4. Operations without entries. -/

variable {s : Listing}

theorem exists_content_of_log_eq_nil {op : Operation} {fragment : Fragment}
    (hfragment : op.fragment? = some fragment) (hlog : (apply op s).log = []) :
    ∃ content, fragment.content? = some content
      ∧ (apply op s).state = { s with page := { s.page with
          text := s.text ++ s.dueIndentation ++ content, indentPending := false } } := by
  rw [apply_of_fragment? hfragment, write] at hlog ⊢
  cases hselection : fragment.selection with
  | ok content =>
      refine ⟨content, ?_, ?_⟩
      · rw [Fragment.content?, hselection]
        rfl
      · rw [← page_append_eq]
        rfl
  | error range =>
      rw [hselection] at hlog
      cases hlog

theorem exists_level_of_log_eq_nil (hlog : (apply (.request .decreaseIndent) s).log = []) :
    ∃ level, s.level = level + 1
      ∧ (apply (.request .decreaseIndent) s).state
          = { s with page := { s.page with level := level } } := by
  -- at level zero there is an entry
  have hlevel : s.page.level ≠ 0 := by
    intro hzero
    have hnoted : (apply (.request .decreaseIndent) s).log
        = [.unbalancedDecrease s.debug.announced] := by
      show s.decreaseIndent.log = _
      rw [decreaseIndent, if_pos hzero]
      rfl
    rw [hnoted] at hlog
    cases hlog
  refine ⟨s.page.level - 1, ?_, ?_⟩
  · show s.page.level = _
    omega
  · show s.decreaseIndent.state = _
    rw [decreaseIndent, if_neg hlevel]
    rfl

theorem exists_record_of_log_eq_nil {data : Attachment}
    (hlog : (apply (.request (.attach data)) s).log = []) :
    ∃ r, data = .debugRecord r
      ∧ (apply (.request (.attach data)) s).state
          = { s with debug := { s.debug with primary := some r } } := by
  cases data with
  | debugRecord r =>
      have haccept : (s.debug.accept r).log = [] := hlog
      -- only a record of the announced method itself makes no entry
      have hown : r.method.token = s.debug.announced := by
        by_contra hother
        cases hstarted : r.isStartedBy s.debug.announced with
        | true =>
            rw [DebugSlots.accept_viaKickoff hother hstarted] at haccept
            cases haccept
        | false =>
            rw [DebugSlots.accept_unrelated hother hstarted] at haccept
            cases haccept
      refine ⟨r, rfl, ?_⟩
      show ({ s with debug := (s.debug.accept r).state } : Listing) = _
      rw [DebugSlots.accept_own hown]
      rfl
  | _ => cases hlog

/-! ## §5. The reduced run, and the rest. -/

/-- **Nothing is lost without an entry, and a loss changes nothing else.**
Take out of a run what its entries say was not taken, and write the empty text
where they say that a content was skipped.  The run ends in the same state,
and of the entries it makes those that report no loss: that a record was
attached to its kickoff method.  In any state an operation makes one entry at
most.  A write that makes none appends exactly its content, behind the
indentation that is due; a decrease that makes none lowers the level by one;
and data attached without an entry is a record, which is kept as the primary
one. -/
theorem reduced_run_loses_nothing (s : Listing) (ops : List Operation) :
    (run (reduced ops s) s).state = (run ops s).state
    ∧ (run (reduced ops s) s).log = (run ops s).log.filter (fun entry => !entry.isLoss)
    ∧ (∀ entry ∈ (run (reduced ops s) s).log,
        ∃ method announced, entry = .attachedToKickoff method announced)
    ∧ (∀ (t : Listing) (op : Operation), (apply op t).log.length ≤ 1)
    ∧ (∀ (t : Listing) (op : Operation) (fragment : Fragment),
        op.fragment? = some fragment → (apply op t).log = [] →
        ∃ content, fragment.content? = some content
          ∧ (apply op t).state = { t with page := { t.page with
              text := t.text ++ t.dueIndentation ++ content, indentPending := false } })
    ∧ (∀ t : Listing, (apply (.request .decreaseIndent) t).log = [] →
        ∃ level, t.level = level + 1
          ∧ (apply (.request .decreaseIndent) t).state
              = { t with page := { t.page with level := level } })
    ∧ (∀ (t : Listing) (data : Attachment), (apply (.request (.attach data)) t).log = [] →
        ∃ r, data = .debugRecord r
          ∧ (apply (.request (.attach data)) t).state
              = { t with debug := { t.debug with primary := some r } }) := by
  have hreduced := run_reduced ops s
  refine ⟨?_, ?_, ?_, fun t op => length_log_apply_le_one op t,
    fun _ _ _ => exists_content_of_log_eq_nil, fun _ => exists_level_of_log_eq_nil,
    fun _ _ => exists_record_of_log_eq_nil⟩
  · rw [hreduced]
    rfl
  · rw [hreduced]
    rfl
  · intro entry hmem
    rw [hreduced] at hmem
    have hkept : (!entry.isLoss) = true := (List.mem_filter.1 hmem).2
    cases entry with
    | attachedToKickoff method announced => exact ⟨method, announced, rfl⟩
    | _ => cases hkept

/-- A run with losses of all four kinds, and what is left of it. -/
theorem reduced_run_loses_nothing_four_losses :
    (run [.announce ⟨0x06000002⟩, .request .increaseIndent, .request (.writeText "" .text),
        .request (.attach (.debugRecord { DebugRecord.ofMethod "IL"
            ⟨⟨0x06000007⟩, "MoveNext", none⟩ with
          kickoff := some ⟨⟨0x06000002⟩, "Run", none⟩ })), .request .decreaseIndent]
        (empty default)).state
      = (run [.request .decreaseIndent, .announce ⟨0x06000002⟩, .request .increaseIndent,
        .request (.write ((Fragment.ofText "ß").withRange ⟨1, 2⟩)),
        .request (.attach (.debugRecord (.ofMethod "C#" ⟨⟨0x06000009⟩, "Main", none⟩))),
        .request (.attach (.debugRecord { DebugRecord.ofMethod "IL"
            ⟨⟨0x06000007⟩, "MoveNext", none⟩ with
          kickoff := some ⟨⟨0x06000002⟩, "Run", none⟩ })),
        .request (.attach (.lineSeparator 4)), .request .decreaseIndent]
        (empty default)).state
    ∧ ∃ level, (apply (.request .increaseIndent) (empty default)).state.level = level + 1
        ∧ (apply (.request .decreaseIndent)
            (apply (.request .increaseIndent) (empty default)).state).state.level = level := by
  refine ⟨(reduced_run_loses_nothing (empty default) [.request .decreaseIndent,
    .announce ⟨0x06000002⟩, .request .increaseIndent,
    .request (.write ((Fragment.ofText "ß").withRange ⟨1, 2⟩)),
    .request (.attach (.debugRecord (.ofMethod "C#" ⟨⟨0x06000009⟩, "Main", none⟩))),
    .request (.attach (.debugRecord { DebugRecord.ofMethod "IL"
        ⟨⟨0x06000007⟩, "MoveNext", none⟩ with
      kickoff := some ⟨⟨0x06000002⟩, "Run", none⟩ })),
    .request (.attach (.lineSeparator 4)), .request .decreaseIndent]).1, ?_⟩
  obtain ⟨level, hlevel, hstate⟩ :=
    (reduced_run_loses_nothing (empty default) []).2.2.2.2.2.1
      (apply (.request .increaseIndent) (empty default)).state rfl
  exact ⟨level, hlevel, congrArg Listing.level hstate⟩

end Listing

end MethodListing
