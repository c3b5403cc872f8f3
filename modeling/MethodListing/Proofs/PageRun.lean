/-
  MethodListing.Proofs.PageRun — WHAT A RUN DOES TO THE PAGE.

  A run without a new start only APPENDS, and what it appends depends on
  three things: the options, the level, and whether the current line still
  lacks its indentation.  `textFrom` says what that is, line by line, for all
  three.  The invariant of the run is that the text so far and what is still
  to come add up to the same text (`Page.text_after_append_textFrom`).

  Main results:
    * `text_run`             — what a run appends;
    * `level_run`            — the level it ends at;
    * `state_run_sinceReset` — nothing before the last new start matters.
-/
import Mathlib.Data.List.Induction
import MethodListing.Listing.Effects
import MethodListing.Listing.Rendering

namespace MethodListing

open Listing

/-! ## §1. What a run appends. -/

namespace Rendering

/-- The first of several lines, on a page: if the current line is begun
already, what is written goes there without indentation. -/
def firstLine (options : LayoutOptions) (level : Nat) (pending : Bool)
    (segment : List Operation) : String :=
  if pending then line options level segment else contents segment

/-- **The text a run appends** to a page at some level, whose current line
may or may not lack its indentation. -/
def textFrom (options : LayoutOptions) (level : Nat) (pending : Bool)
    (ops : List Operation) : String :=
  match segments ops with
  | [] => ""
  | segment :: later =>
      options.lineEnding.text.intercalate
        (firstLine options level pending segment :: lines options (levelAfter level segment) later)

theorem contents_cons {op : Operation} {content : String} (h : op.written? = some content)
    (segment : List Operation) : contents (op :: segment) = content ++ contents segment := by
  simp [contents, h, String.join_cons]

theorem contents_cons_of_not_written? {op : Operation} (h : op.written? = none)
    (segment : List Operation) : contents (op :: segment) = contents segment := by
  simp [contents, h]

theorem line_cons {options : LayoutOptions} {level : Nat} {op : Operation} {content : String}
    (h : op.written? = some content) (segment : List Operation) :
    line options level (op :: segment)
      = options.indentation level ++ (content ++ contents segment) := by
  simp [line, firstWriteLevel?, h, contents_cons h]

theorem line_cons_of_not_written? {options : LayoutOptions} {level : Nat} {op : Operation}
    (h : op.written? = none) (segment : List Operation) :
    line options level (op :: segment) = line options (op.relevel level) segment := by
  simp [line, firstWriteLevel?, h, contents_cons_of_not_written? h]

theorem levelAfter_cons_of_written? {level : Nat} {op : Operation} {content : String}
    (h : op.written? = some content) (segment : List Operation) :
    levelAfter level (op :: segment) = levelAfter level segment := by
  rw [levelAfter, List.foldl_cons, relevel_of_written? h]
  rfl

variable (options : LayoutOptions) (level : Nat) (pending : Bool)

theorem firstLine_nil : firstLine options level pending [] = "" := by
  cases pending <;> simp [firstLine, line, firstWriteLevel?, contents]

theorem firstLine_cons {op : Operation} {content : String} (h : op.written? = some content)
    (segment : List Operation) :
    firstLine options level pending (op :: segment)
      = (if pending then options.indentation level else "") ++ (content ++ contents segment) := by
  cases pending <;> simp [firstLine, line_cons h, contents_cons h]

theorem firstLine_cons_of_not_written? {op : Operation} (h : op.written? = none)
    (segment : List Operation) :
    firstLine options level pending (op :: segment)
      = firstLine options (op.relevel level) pending segment := by
  cases pending <;> simp [firstLine, line_cons_of_not_written? h, contents_cons_of_not_written? h]

/-- On a page whose line is not begun, these are the lines of the run. -/
theorem textFrom_true (ops : List Operation) :
    textFrom options level true ops = text options level ops := by
  obtain ⟨segment, later, hs⟩ := exists_segments ops
  rw [textFrom, text, hs]
  rfl

theorem textFrom_nil : textFrom options level pending [] = "" := by
  simp [textFrom, segments_nil, firstLine_nil, lines]

theorem textFrom_cons_of_isLineBreak {op : Operation} (h : op.isLineBreak = true)
    (ops : List Operation) :
    textFrom options level pending (op :: ops)
      = options.lineEnding.text ++ textFrom options level true ops := by
  obtain ⟨segment, later, hs⟩ := exists_segments ops
  -- the first line ends here, and nothing more is written on it
  rw [textFrom, segments_cons_of_isLineBreak h, hs]
  simp only [lines, firstLine_nil]
  rw [String.intercalate_cons_cons, textFrom, hs, String.empty_append]
  rfl

theorem textFrom_cons_of_written? {op : Operation} {content : String}
    (h : op.written? = some content) (ops : List Operation) :
    textFrom options level pending (op :: ops)
      = (if pending then options.indentation level else "")
        ++ (content ++ textFrom options level false ops) := by
  obtain ⟨segment, later, hs⟩ := exists_segments ops
  -- the content stands in front of the first line, so in front of all of them
  rw [textFrom, segments_cons (Operation.isLineBreak_of_written? h) hs]
  simp only [firstLine_cons _ _ _ h, levelAfter_cons_of_written? h]
  rw [String.intercalate_cons_append, String.intercalate_cons_append, textFrom, hs]
  rfl

theorem textFrom_cons_of_not_written? {op : Operation} (hw : op.written? = none)
    (hl : op.isLineBreak = false) (ops : List Operation) :
    textFrom options level pending (op :: ops)
      = textFrom options (op.relevel level) pending ops := by
  obtain ⟨segment, later, hs⟩ := exists_segments ops
  rw [textFrom, segments_cons hl hs, textFrom, hs]
  simp only [firstLine_cons_of_not_written? _ _ _ hw]
  rfl

end Rendering

/-! ## §2. A run from any listing. -/

open Rendering

namespace Page

theorem text_append (content : String) (p : Page) :
    (p.append content).text
      = p.text ++ ((if p.indentPending then p.options.indentation p.level else "") ++ content) := by
  show p.beginLine.text ++ content = _
  unfold beginLine
  split
  · rw [String.append_assoc]
  · rw [String.empty_append]

theorem indentPending_append (content : String) (p : Page) :
    (p.append content).indentPending = false := indentPending_beginLine p

/-- **What is written and what is to come** are the same text before and
after an operation. -/
theorem text_after_append_textFrom {op : Operation} (h : op.isReset = false) (p : Page)
    (ops : List Operation) :
    (p.after op).text
        ++ textFrom (p.after op).options (p.after op).level (p.after op).indentPending ops
      = p.text ++ textFrom p.options p.level p.indentPending (op :: ops) := by
  by_cases hl : op.isLineBreak = true
  · rw [after_of_isLineBreak hl, textFrom_cons_of_isLineBreak _ _ _ hl, ← String.append_assoc]
    rfl
  · cases hw : op.written? with
    | some content =>
        rw [after_of_written? hw, textFrom_cons_of_written? _ _ _ hw, text_append, options_append,
          level_append, indentPending_append]
        simp only [String.append_assoc]
    | none =>
        have hl' : op.isLineBreak = false := by simpa using hl
        rw [after_of_not_written? hw hl' h, textFrom_cons_of_not_written? _ _ _ hw hl']

end Page

namespace Listing

/-- **A run appends** what `textFrom` says. -/
theorem text_run {ops : List Operation} (h : ∀ op ∈ ops, op.isReset = false) (s : Listing) :
    (run ops s).state.text
      = s.text ++ textFrom s.options s.level s.page.indentPending ops := by
  induction ops generalizing s with
  | nil =>
      rw [textFrom_nil, String.append_empty]
      rfl
  | cons op ops ih =>
      have hop : op.isReset = false := h op List.mem_cons_self
      rw [state_run_cons, ih (fun o ho => h o (List.mem_cons_of_mem op ho))]
      show (apply op s).state.page.text ++ textFrom (apply op s).state.page.options
        (apply op s).state.page.level (apply op s).state.page.indentPending ops = _
      rw [page_apply, Page.text_after_append_textFrom hop]
      rfl

/-- The level a run ends at. -/
theorem level_run {ops : List Operation} (h : ∀ op ∈ ops, op.isReset = false) (s : Listing) :
    (run ops s).state.level = levelAfter s.level ops := by
  induction ops generalizing s with
  | nil => rfl
  | cons op ops ih =>
      rw [state_run_cons, ih (fun o ho => h o (List.mem_cons_of_mem op ho)),
        level_apply (h op List.mem_cons_self)]
      rfl

/-! ## §3. Starting over. -/

/-- The operations since the last new start. -/
def sinceReset (ops : List Operation) : List Operation :=
  ops.foldl (fun since op => if op.isReset then [] else since ++ [op]) []

theorem sinceReset_concat (ops : List Operation) (op : Operation) :
    sinceReset (ops ++ [op]) = if op.isReset then [] else sinceReset ops ++ [op] := by
  rw [sinceReset, List.foldl_append]
  rfl

theorem isReset_of_mem_sinceReset {ops : List Operation} {op : Operation}
    (h : op ∈ sinceReset ops) : op.isReset = false := by
  induction ops using List.reverseRec generalizing op with
  | nil => simp [sinceReset] at h
  | append_singleton ops last ih =>
      rw [sinceReset_concat] at h
      split at h
      · simp at h
      · rename_i hlast
        rcases List.mem_append.1 h with hmem | hmem
        · exact ih hmem
        · rw [List.mem_singleton.1 hmem]
          simpa using hlast

/-- **Nothing before the last new start matters.** -/
theorem state_run_sinceReset (options : LayoutOptions) (ops : List Operation) :
    (run ops (empty options)).state = (run (sinceReset ops) (empty options)).state := by
  induction ops using List.reverseRec with
  | nil => rfl
  | append_singleton ops op ih =>
      rw [sinceReset_concat, run_append, Logged.state_andThen, ih]
      split
      · rename_i h
        rw [Operation.eq_reset_of_isReset h]
        exact state_run_reset options _
      · rw [run_append, Logged.state_andThen]

/-- The text of any run from a new listing, as lines. -/
theorem text_run_empty (options : LayoutOptions) (ops : List Operation) :
    (run ops (empty options)).state.text = Rendering.text options 0 (sinceReset ops) := by
  rw [state_run_sinceReset, text_run fun _ => isReset_of_mem_sinceReset]
  show "" ++ textFrom options 0 true (sinceReset ops) = _
  rw [String.empty_append, textFrom_true]

end Listing

end MethodListing
