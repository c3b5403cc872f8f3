/-
  MethodListing.Proofs.LineByLine — THE TEXT IS ITS LINES.

  The marks that a page keeps, the pending indentation above all, are there
  to write each line as soon as it is known.  Seen from the end of a run none
  of them is needed: cut the operations at the line ends, and each segment
  gives one line.

  The mark itself follows from the segments too: the indentation is pending
  exactly if nothing is written on the last line (`indentPending_run`).

  Main results:
    * `indentPending_run` — when the indentation is pending after a run;
    * `run_line_by_line`  — text, length, level and next position of any run.
-/
import MethodListing.Proofs.PageRun

namespace MethodListing.Rendering

open Listing

/-! ## §1. The last line. -/

/-- The segment of the last, unfinished line. -/
def lastSegment (ops : List Operation) : List Operation :=
  (segments ops).getLast (segments_ne_nil ops)

/-- Whether something is written on the last line. -/
def writesLastLine (ops : List Operation) : Bool := (lastSegment ops).any (·.written?.isSome)

theorem lastSegment_of_no_isLineBreak {ops : List Operation}
    (h : ops.any Operation.isLineBreak = false) : lastSegment ops = ops := by
  have hsegments : segments ops = [ops] := segments_of_no_isLineBreak (by simpa using h)
  simp [lastSegment, hsegments]

theorem lastSegment_cons_of_isLineBreak {op : Operation} (h : op.isLineBreak = true)
    (ops : List Operation) : lastSegment (op :: ops) = lastSegment ops := by
  simp only [lastSegment, segments_cons_of_isLineBreak h]
  exact List.getLast_cons (segments_ne_nil ops)

theorem lastSegment_cons_of_any {op : Operation} (h : op.isLineBreak = false)
    {ops : List Operation} (hany : ops.any Operation.isLineBreak = true) :
    lastSegment (op :: ops) = lastSegment ops := by
  obtain ⟨segment, later, hs⟩ := exists_segments ops
  -- a line end in `ops` leaves a segment behind the first one
  have hlater : later ≠ [] := by
    intro hnil
    have hcount : 0 < ops.countP Operation.isLineBreak :=
      List.countP_pos_iff.2 (List.any_eq_true.1 hany)
    have hlength := length_segments ops
    simp only [hs, hnil, List.length_singleton] at hlength
    omega
  simp only [lastSegment, segments_cons h hs, hs, List.getLast_cons hlater]

/-! ## §2. When the indentation is pending. -/

theorem indentPending_after {op : Operation} (h : op.isReset = false) (p : Page) :
    (p.after op).indentPending
      = (op.isLineBreak || (p.indentPending && !op.written?.isSome)) := by
  by_cases hl : op.isLineBreak = true
  · rw [Page.after_of_isLineBreak hl, hl, Bool.true_or]
    rfl
  · have hl' : op.isLineBreak = false := by simpa using hl
    rw [hl', Bool.false_or]
    cases hw : op.written? with
    | some content => simp [Page.after_of_written? hw, Page.indentPending_append]
    | none => simp [Page.after_of_not_written? hw hl' h]

/-- **The indentation is pending** exactly if the line lacks it at the start
or is not the one at the start, and nothing is written on it. -/
theorem indentPending_run {ops : List Operation} (h : ∀ op ∈ ops, op.isReset = false)
    (s : Listing) :
    (run ops s).state.page.indentPending
      = ((s.page.indentPending || ops.any Operation.isLineBreak) && !writesLastLine ops) := by
  induction ops generalizing s with
  | nil => simp [writesLastLine, lastSegment, segments_nil]
  | cons op ops ih =>
      rw [state_run_cons, ih (fun o ho => h o (List.mem_cons_of_mem op ho)), page_apply,
        indentPending_after (h op List.mem_cons_self)]
      by_cases hl : op.isLineBreak = true
      · simp [hl, writesLastLine, lastSegment_cons_of_isLineBreak hl]
      · have hl' : op.isLineBreak = false := by simpa using hl
        by_cases hany : ops.any Operation.isLineBreak = true
        · simp [hl', hany, writesLastLine, lastSegment_cons_of_any hl' hany]
        · -- no line end at all: the last line is the whole run
          have hany' : ops.any Operation.isLineBreak = false := by simpa using hany
          have hcons : (op :: ops).any Operation.isLineBreak = false := by simp [hl', hany']
          simp only [writesLastLine, lastSegment_of_no_isLineBreak hany',
            lastSegment_of_no_isLineBreak hcons, hl', hany', hcons, List.any_cons, Bool.or_false,
            Bool.false_or, Bool.not_or, Bool.and_assoc]

/-! ## §3. The page of a run, from its lines. -/

theorem pendingIndentation_eq (options : LayoutOptions) (level : Nat) (ops : List Operation) :
    pendingIndentation options level ops
      = if writesLastLine ops then "" else options.indentation (levelAfter level ops) := by
  rw [pendingIndentation, List.getLast?_eq_some_getLast (segments_ne_nil ops)]
  rfl

/-- On a new listing, the next position lies behind the pending indentation. -/
theorem nextPosition_run_empty (options : LayoutOptions) {ops : List Operation}
    (h : ∀ op ∈ ops, op.isReset = false) :
    (run ops (empty options)).state.nextPosition
      = (run ops (empty options)).state.length
        + (pendingIndentation options 0 ops).utf8ByteSize := by
  have hlevel : (run ops (empty options)).state.page.level = levelAfter 0 ops := level_run h _
  have hoptions : (run ops (empty options)).state.page.options = options := options_run ops _
  show Page.length _ + _ = _
  rw [indentPending_run h, pendingIndentation_eq, hlevel, hoptions]
  congr 1
  cases hlast : writesLastLine ops with
  | true => simp
  | false => simp [empty, Page.blank, LayoutOptions.utf8ByteSize_indentation]

/-- **Any run, line by line.**  Cut the operations since the last new start at
the `n` line ends, which gives `n + 1` segments; the text is the lines of the
segments, with line ends between them.  The length is that of the text in
bytes.  The next position is the length, unless nothing is written on the
last line: then the indentation of the level at the end comes on top. -/
theorem run_line_by_line (options : LayoutOptions) (ops : List Operation) :
    segments (sinceReset ops) = (sinceReset ops).splitOnP Operation.isLineBreak
    ∧ (segments (sinceReset ops)).length
        = (sinceReset ops).countP Operation.isLineBreak + 1
    ∧ (run ops (empty options)).state.text
        = options.lineEnding.text.intercalate
            (lines options 0 (segments (sinceReset ops)))
    ∧ (run ops (empty options)).state.length
        = (run ops (empty options)).state.text.utf8ByteSize
    ∧ (run ops (empty options)).state.level = levelAfter 0 (sinceReset ops)
    ∧ (run ops (empty options)).state.nextPosition
        = (run ops (empty options)).state.length
          + if writesLastLine (sinceReset ops) then 0
            else (run ops (empty options)).state.level * options.indentUnit.utf8ByteSize := by
  have hreset : ∀ op ∈ sinceReset ops, op.isReset = false := fun _ => isReset_of_mem_sinceReset
  rw [state_run_sinceReset]
  refine ⟨rfl, length_segments _, ?_, rfl, level_run hreset _, ?_⟩
  · rw [text_run hreset]
    show "" ++ textFrom options 0 true (sinceReset ops) = _
    rw [String.empty_append, textFrom_true]
    rfl
  · rw [nextPosition_run_empty options hreset, pendingIndentation_eq, level_run hreset]
    congr 1
    cases writesLastLine (sinceReset ops) with
    | true => rfl
    | false => exact LayoutOptions.utf8ByteSize_indentation options _

end MethodListing.Rendering
