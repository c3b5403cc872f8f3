/-
  MethodListing.Proofs.LineEndings — LINE ENDINGS CHANGE TERMINATORS ONLY.

  Take one run on two listings whose options differ in the line ending.  The
  lines are the same on both: a line is made of indentation and contents, and
  the line ending has no part in either.  So the texts are the same lines
  with different terminators between them, and each position is shifted by one
  byte for every line that was ended before it.

  Log entries depend on the text no more than on the way it is laid out: they
  look at the level and the slots, and at nothing else (`Alike`).

  Main results:
    * `Alike.apply`, `Alike.run` — listings with the same level and slots keep
      them the same, and make the same entries;
    * `not_mem_of_mem_lines`     — a character that is not written is on no
      line;
    * `run_crlf`                 — one run, with either line ending.
-/
import MethodListing.Proofs.LineByLine
import MethodListing.Text.Separator

namespace MethodListing

/-! ## §1. Listings that differ in their text only. -/

namespace Listing

/-- The two are at the same level, and their slots are the same. -/
structure Alike (s s' : Listing) : Prop where
  level_eq : s.page.level = s'.page.level
  debug_eq : s.debug = s'.debug

variable {s s' : Listing}

theorem Alike.log_apply (h : Alike s s') (op : Operation) :
    (apply op s).log = (apply op s').log :=
  log_apply_congr h.level_eq (congrArg DebugSlots.announced h.debug_eq) op

theorem Alike.apply (h : Alike s s') (op : Operation) :
    Alike (Listing.apply op s).state (Listing.apply op s').state where
  level_eq := by
    -- a reset is the one operation whose level does not come from the one before
    by_cases hop : op.isReset = true
    · rw [Operation.eq_reset_of_isReset hop]
      rfl
    · have hlevel := level_apply (by simpa using hop) s
      have hlevel' := level_apply (by simpa using hop) s'
      show (Listing.apply op s).state.level = (Listing.apply op s').state.level
      rw [hlevel, hlevel']
      exact congrArg op.relevel h.level_eq
  debug_eq := by rw [debug_apply, debug_apply, h.debug_eq]

/-- **A run on listings that are alike** keeps them alike, with the same
entries. -/
theorem Alike.run (h : Alike s s') (ops : List Operation) :
    Alike (Listing.run ops s).state (Listing.run ops s').state
    ∧ (Listing.run ops s).log = (Listing.run ops s').log := by
  induction ops generalizing s s' with
  | nil => exact ⟨h, rfl⟩
  | cons op ops ih =>
      obtain ⟨halike, hlog⟩ := ih (h.apply op)
      refine ⟨halike, ?_⟩
      rw [log_run_cons, log_run_cons, h.log_apply op, hlog]

end Listing

/-! ## §2. The same lines. -/

namespace Rendering

theorem lines_eq_of_indentUnit_eq {options options' : LayoutOptions}
    (h : options.indentUnit = options'.indentUnit) (level : Nat)
    (segments : List (List Operation)) :
    lines options level segments = lines options' level segments := by
  induction segments generalizing level with
  | nil => rfl
  | cons segment later ih =>
      have hline : line options level segment = line options' level segment := by
        unfold line LayoutOptions.indentation
        rw [h]
      rw [lines, lines, hline, ih]

theorem pendingIndentation_eq_of_indentUnit_eq {options options' : LayoutOptions}
    (h : options.indentUnit = options'.indentUnit) (level : Nat) (ops : List Operation) :
    pendingIndentation options level ops = pendingIndentation options' level ops := by
  unfold pendingIndentation LayoutOptions.indentation
  rw [h]

/-! ## §3. What is on a line. -/

theorem mem_of_mem_segments {ops segment : List Operation} (h : segment ∈ segments ops)
    {op : Operation} (hop : op ∈ segment) : op ∈ ops := by
  induction ops generalizing segment with
  | nil =>
      rw [segments_nil, List.mem_singleton] at h
      rw [h] at hop
      cases hop
  | cons first ops ih =>
      by_cases hbreak : first.isLineBreak = true
      · rw [segments_cons_of_isLineBreak hbreak] at h
        rcases List.mem_cons.1 h with h | h
        · rw [h] at hop
          cases hop
        · exact List.mem_cons_of_mem first (ih h hop)
      · obtain ⟨begun, later, hsegments⟩ := exists_segments ops
        rw [segments_cons (by simpa using hbreak) hsegments] at h
        rw [hsegments] at ih
        rcases List.mem_cons.1 h with h | h
        · -- the first segment is longer by the operation in front
          rw [h] at hop
          rcases List.mem_cons.1 hop with hop | hop
          · rw [hop]
            exact List.mem_cons_self
          · exact List.mem_cons_of_mem first (ih List.mem_cons_self hop)
        · exact List.mem_cons_of_mem first (ih (List.mem_cons_of_mem begun h) hop)

section NotWritten

variable {options : LayoutOptions} {char : Char}

theorem not_mem_indentation (h : char ∉ options.indentUnit.toList) (level : Nat) :
    char ∉ (options.indentation level).toList := by
  unfold LayoutOptions.indentation
  rw [String.toList_join, List.mem_flatMap]
  rintro ⟨unit, hunit, hmem⟩
  rw [List.eq_of_mem_replicate hunit] at hmem
  exact h hmem

theorem not_mem_contents {ops : List Operation}
    (h : ∀ op ∈ ops, ∀ content, op.written? = some content → char ∉ content.toList) :
    char ∉ (contents ops).toList := by
  unfold contents
  rw [String.toList_join, List.mem_flatMap]
  rintro ⟨content, hcontent, hmem⟩
  obtain ⟨op, hop, hwritten⟩ := List.mem_filterMap.1 hcontent
  exact h op hop content hwritten hmem

theorem not_mem_line (hunit : char ∉ options.indentUnit.toList) {segment : List Operation}
    (h : ∀ op ∈ segment, ∀ content, op.written? = some content → char ∉ content.toList)
    (level : Nat) : char ∉ (line options level segment).toList := by
  unfold line
  split
  · simp
  · rw [String.toList_append, List.mem_append]
    rintro (hmem | hmem)
    · exact not_mem_indentation hunit _ hmem
    · exact not_mem_contents h hmem

/-- **A character that is neither in the indentation nor written** is on no
line. -/
theorem not_mem_of_mem_lines (hunit : char ∉ options.indentUnit.toList)
    {segments : List (List Operation)}
    (h : ∀ segment ∈ segments, ∀ op ∈ segment, ∀ content, op.written? = some content →
      char ∉ content.toList)
    {level : Nat} {text : String} (htext : text ∈ lines options level segments) :
    char ∉ text.toList := by
  induction segments generalizing level with
  | nil => cases htext
  | cons segment later ih =>
      rcases List.mem_cons.1 htext with htext | htext
      · rw [htext]
        exact not_mem_line hunit (h segment List.mem_cons_self) level
      · exact ih (fun seg hseg => h seg (List.mem_cons_of_mem segment hseg)) htext

end NotWritten

/-! ## §4. Either line ending. -/

theorem utf8ByteSize_intercalate (separator line : String) (later : List String) :
    (separator.intercalate (line :: later)).utf8ByteSize
      = (String.join (line :: later)).utf8ByteSize + later.length * separator.utf8ByteSize := by
  induction later generalizing line with
  | nil => simp
  | cons next later ih =>
      have hjoin : String.join (line :: next :: later) = line ++ String.join (next :: later) :=
        String.join_cons
      rw [String.intercalate_cons_cons, String.utf8ByteSize_append, String.utf8ByteSize_append, ih,
        hjoin, String.utf8ByteSize_append, List.length_cons, Nat.succ_mul]
      omega

/-- A carriage return more for every line that is ended. -/
theorem utf8ByteSize_text_crlf (unit : String) (level : Nat) (ops : List Operation) :
    (text ⟨unit, .crlf⟩ level ops).utf8ByteSize
      = (text ⟨unit, .lf⟩ level ops).utf8ByteSize + ops.countP Operation.isLineBreak := by
  have hunit : (LayoutOptions.mk unit .crlf).indentUnit = (LayoutOptions.mk unit .lf).indentUnit :=
    rfl
  have hlines := lines_eq_of_indentUnit_eq hunit level (segments ops)
  have hlength := length_lines ⟨unit, .lf⟩ level (segments ops)
  rw [length_segments] at hlength
  unfold text
  rw [hlines]
  cases hpieces : lines ⟨unit, .lf⟩ level (segments ops) with
  | nil =>
      rw [hpieces] at hlength
      cases hlength
  | cons first later =>
      rw [hpieces, List.length_cons] at hlength
      have hcrlf : (LineEnding.text .crlf).utf8ByteSize = 2 := rfl
      have hlf : (LineEnding.text .lf).utf8ByteSize = 1 := rfl
      rw [utf8ByteSize_intercalate, utf8ByteSize_intercalate, hcrlf, hlf]
      omega

end Rendering

namespace Listing

open Rendering

theorem length_run_crlf (unit : String) (ops : List Operation) :
    (run ops (empty ⟨unit, .crlf⟩)).state.length
      = (run ops (empty ⟨unit, .lf⟩)).state.length
        + (sinceReset ops).countP Operation.isLineBreak := by
  show (run ops (empty ⟨unit, .crlf⟩)).state.text.utf8ByteSize
    = (run ops (empty ⟨unit, .lf⟩)).state.text.utf8ByteSize + _
  rw [text_run_empty, text_run_empty, utf8ByteSize_text_crlf]

theorem nextPosition_run_crlf (unit : String) (ops : List Operation) :
    (run ops (empty ⟨unit, .crlf⟩)).state.nextPosition
      = (run ops (empty ⟨unit, .lf⟩)).state.nextPosition
        + (sinceReset ops).countP Operation.isLineBreak := by
  have hreset : ∀ op ∈ sinceReset ops, op.isReset = false := fun _ => isReset_of_mem_sinceReset
  have hlength := length_run_crlf unit ops
  rw [state_run_sinceReset, state_run_sinceReset ⟨unit, .lf⟩] at hlength ⊢
  -- what is pending is the same, so the positions differ as the lengths do
  rw [nextPosition_run_empty _ hreset, nextPosition_run_empty _ hreset, hlength,
    @pendingIndentation_eq_of_indentUnit_eq ⟨unit, .crlf⟩ ⟨unit, .lf⟩ rfl]
  omega

/-- **Line endings change terminators only.**  One run on two listings, one
of which ends its lines in a carriage return and a line feed, the other in a
line feed.  Length and next position of the first are those of the second and
one more for every line ended since the last new start; level, announced
method, records shown and entries are the same.  If there is no line feed in
the indentation or in what is written, the first text is the second one with a
carriage return in front of every line feed, and cut at their terminators both
fall apart into the same lines, one more than were ended. -/
theorem run_crlf (unit : String) (ops : List Operation) :
    (run ops (empty ⟨unit, .crlf⟩)).state.length
        = (run ops (empty ⟨unit, .lf⟩)).state.length
          + (sinceReset ops).countP Operation.isLineBreak
    ∧ (run ops (empty ⟨unit, .crlf⟩)).state.nextPosition
        = (run ops (empty ⟨unit, .lf⟩)).state.nextPosition
          + (sinceReset ops).countP Operation.isLineBreak
    ∧ (run ops (empty ⟨unit, .crlf⟩)).state.level = (run ops (empty ⟨unit, .lf⟩)).state.level
    ∧ (run ops (empty ⟨unit, .crlf⟩)).state.announced
        = (run ops (empty ⟨unit, .lf⟩)).state.announced
    ∧ (run ops (empty ⟨unit, .crlf⟩)).state.debugRecord?
        = (run ops (empty ⟨unit, .lf⟩)).state.debugRecord?
    ∧ (run ops (empty ⟨unit, .crlf⟩)).log = (run ops (empty ⟨unit, .lf⟩)).log
    ∧ ('\n' ∉ unit.toList →
        (∀ op ∈ sinceReset ops, ∀ content, op.written? = some content → '\n' ∉ content.toList) →
        (run ops (empty ⟨unit, .crlf⟩)).state.text
            = replaceChar '\n' "\r\n" (run ops (empty ⟨unit, .lf⟩)).state.text
        ∧ cutAt "\r\n" (run ops (empty ⟨unit, .crlf⟩)).state.text
            = cutAt "\n" (run ops (empty ⟨unit, .lf⟩)).state.text
        ∧ (cutAt "\n" (run ops (empty ⟨unit, .lf⟩)).state.text).length
            = (sinceReset ops).countP Operation.isLineBreak + 1) := by
  have halike : Alike (empty ⟨unit, .crlf⟩) (empty ⟨unit, .lf⟩) := ⟨rfl, rfl⟩
  obtain ⟨hstates, hlog⟩ := halike.run ops
  refine ⟨length_run_crlf unit ops, nextPosition_run_crlf unit ops, hstates.level_eq,
    congrArg DebugSlots.announced hstates.debug_eq, congrArg DebugSlots.lookup? hstates.debug_eq,
    hlog, ?_⟩
  intro hunit hwritten
  have hlines := @lines_eq_of_indentUnit_eq ⟨unit, .crlf⟩ ⟨unit, .lf⟩ rfl 0
    (segments (sinceReset ops))
  have hlength := length_lines ⟨unit, .lf⟩ 0 (segments (sinceReset ops))
  rw [length_segments] at hlength
  have hfree : ∀ text ∈ lines ⟨unit, .lf⟩ 0 (segments (sinceReset ops)), '\n' ∉ text.toList := by
    intro text htext
    refine not_mem_of_mem_lines hunit ?_ htext
    intro segment hsegment op hop
    exact hwritten op (mem_of_mem_segments hsegment hop)
  rw [text_run_empty, text_run_empty]
  unfold Rendering.text
  rw [hlines]
  -- from here on the texts are the same lines, put together in two ways
  generalize lines ⟨unit, .lf⟩ 0 (segments (sinceReset ops)) = pieces at hlength hfree
  have hne : pieces ≠ [] := by
    intro hnil
    rw [hnil] at hlength
    cases hlength
  have hcutLf : cutAt "\n" ("\n".intercalate pieces) = pieces :=
    cutAt_intercalate (show "\n".toList = [] ++ ['\n'] from rfl) (by simp) hne hfree
  have hcutCrlf : cutAt "\r\n" ("\r\n".intercalate pieces) = pieces :=
    cutAt_intercalate (show "\r\n".toList = ['\r'] ++ ['\n'] from rfl) (by decide) hne hfree
  refine ⟨?_, ?_, ?_⟩
  · exact (replaceChar_intercalate hfree).symm
  · show cutAt "\r\n" ("\r\n".intercalate pieces) = cutAt "\n" ("\n".intercalate pieces)
    rw [hcutCrlf, hcutLf]
  · show (cutAt "\n" ("\n".intercalate pieces)).length = _
    rw [hcutLf, hlength]

/-- Three lines: the first ends in a carriage return of its own, the second is
empty, and of the third only the indentation is written. -/
theorem run_crlf_three_lines :
    cutAt "\r\n" (run [.request (.writeText "a\r" .text), .request .writeLine,
        .request .increaseIndent, .request .writeLine,
        .request (.write ((Fragment.ofText "ß").withRange ⟨1, 2⟩))]
        (empty ⟨"\t", .crlf⟩)).state.text
      = cutAt "\n" (run [.request (.writeText "a\r" .text), .request .writeLine,
        .request .increaseIndent, .request .writeLine,
        .request (.write ((Fragment.ofText "ß").withRange ⟨1, 2⟩))]
        (empty ⟨"\t", .lf⟩)).state.text
    ∧ (run [.request (.writeText "a\r" .text), .request .writeLine,
        .request .increaseIndent, .request .writeLine,
        .request (.write ((Fragment.ofText "ß").withRange ⟨1, 2⟩))]
        (empty ⟨"\t", .crlf⟩)).state.text
      = replaceChar '\n' "\r\n" (run [.request (.writeText "a\r" .text), .request .writeLine,
        .request .increaseIndent, .request .writeLine,
        .request (.write ((Fragment.ofText "ß").withRange ⟨1, 2⟩))]
        (empty ⟨"\t", .lf⟩)).state.text := by
  have h := (run_crlf "\t" [.request (.writeText "a\r" .text), .request .writeLine,
    .request .increaseIndent, .request .writeLine,
    .request (.write ((Fragment.ofText "ß").withRange ⟨1, 2⟩))]).2.2.2.2.2.2 (by decide) (by
      simp [sinceReset, Operation.isReset, Operation.written?]
      decide)
  exact ⟨h.2.1, h.1⟩

end Listing

end MethodListing
