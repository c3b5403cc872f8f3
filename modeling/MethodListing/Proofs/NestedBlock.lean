/-
  MethodListing.Proofs.NestedBlock — A BLOCK, NESTED DEEPER.

  Run one block of operations at some level and again some levels deeper.  As
  long as the level never has to fall below zero, all levels on the way differ
  by the same amount, so each line that something is written on has the same
  indentation more in front.  Nothing else changes, and lines that nothing is
  written on stay empty.

  Main results:
    * `slice?_lineRangesFrom` — the lines cut out of the text of a run are
      those of its segments;
    * `getElem?_lines`        — a single line, from the level it starts at;
    * `line_add`              — a line some levels deeper;
    * `cutLines_nested`       — the lines of a block and of the block nested.
-/
import MethodListing.Listing.Balance
import MethodListing.Listing.LineRanges
import MethodListing.Proofs.PageRun

namespace MethodListing

open Listing Rendering

/-! ## §1. The lines, cut out of the text. -/

namespace Listing

/-- What stands on the current line so far can be cut out of the text for
good: a run writes behind it. -/
theorem slice?_current {ops : List Operation} (h : ∀ op ∈ ops, op.isReset = false) {s : Listing}
    {front current : String} (htext : s.text = front ++ current) :
    (ByteRange.mk front.utf8ByteSize s.length).slice? (run ops s).state.text = some current := by
  have hlength : s.length = (front ++ current).utf8ByteSize := congrArg _ htext
  rw [ByteRange.slice?_eq_some_iff, hlength, text_run h, htext]
  exact ⟨front, _, rfl, rfl, rfl⟩

/-- **An operation on the current line** writes what the line begins with, and
leaves a page on which the rest of it follows. -/
theorem exists_firstLine_eq_append {op : Operation} (hbreak : op.isLineBreak = false)
    (hreset : op.isReset = false) (s : Listing) :
    ∃ begun, (apply op s).state.text = s.text ++ begun
      ∧ ∀ segment, firstLine s.options s.level s.page.indentPending (op :: segment)
          = begun ++ firstLine s.options (op.relevel s.level)
              (apply op s).state.page.indentPending segment := by
  have hpage := page_apply op s
  cases hw : op.written? with
  | some content =>
      rw [Page.after_of_written? hw] at hpage
      refine ⟨_, (congrArg Page.text hpage).trans (Page.text_append content s.page), ?_⟩
      intro segment
      rw [hpage, Page.indentPending_append, firstLine_cons _ _ _ hw, String.append_assoc]
      rfl
  | none =>
      rw [Page.after_of_not_written? hw hbreak hreset] at hpage
      refine ⟨"", (congrArg Page.text hpage).trans String.append_empty.symm, ?_⟩
      intro segment
      rw [hpage, firstLine_cons_of_not_written? _ _ _ hw, String.empty_append]

/-- **The lines cut out of the text** of a run are those of its segments.  At
any point of the run the text is what lies in front of the current line, and
the current line. -/
theorem slice?_lineRangesFrom {ops : List Operation} (h : ∀ op ∈ ops, op.isReset = false)
    {s : Listing} {front current : String} (htext : s.text = front ++ current)
    {segment : List Operation} {later : List (List Operation)}
    (hsegments : segments ops = segment :: later) :
    (lineRangesFrom front.utf8ByteSize ops s).map (·.slice? (run ops s).state.text)
      = some (current ++ firstLine s.options s.level s.page.indentPending segment)
        :: (lines s.options (levelAfter s.level segment) later).map some := by
  induction ops generalizing s front current segment later with
  | nil =>
      rw [segments_nil] at hsegments
      cases hsegments
      rw [firstLine_nil, String.append_empty, lineRangesFrom, List.map_singleton,
        slice?_current h htext]
      rfl
  | cons op ops ih =>
      have hops : ∀ o ∈ ops, o.isReset = false := fun o ho => h o (List.mem_cons_of_mem op ho)
      obtain ⟨next, rest, hnext⟩ := exists_segments ops
      by_cases hbreak : op.isLineBreak = true
      · -- the current line is ended here, and the next one begins behind the end
        rw [segments_cons_of_isLineBreak hbreak, hnext] at hsegments
        cases hsegments
        cases Operation.eq_writeLine_of_isLineBreak hbreak
        have hlater := ih hops (String.append_empty (s := s.writeLine.state.text)).symm hnext
        rw [String.empty_append] at hlater
        rw [lineRangesFrom, if_pos hbreak, List.map_cons, slice?_current h htext, firstLine_nil,
          String.append_empty]
        exact congrArg (some current :: ·) hlater
      · -- the current line goes on, longer by what the operation writes
        have hbreak' : op.isLineBreak = false := by simpa using hbreak
        have hreset : op.isReset = false := h op List.mem_cons_self
        obtain ⟨begun, htext', hline⟩ := exists_firstLine_eq_append hbreak' hreset s
        rw [htext, String.append_assoc] at htext'
        rw [segments_cons hbreak' hnext] at hsegments
        cases hsegments
        rw [lineRangesFrom, if_neg hbreak, state_run_cons, ih hops htext' hnext, options_apply,
          level_apply hreset, hline, String.append_assoc]
        rfl

end Listing

/-! ## §2. A line some levels deeper. -/

namespace Rendering

variable {options : LayoutOptions} {level : Nat} {segment : List Operation}

theorem getElem?_lines (options : LayoutOptions) (level : Nat) (pieces : List (List Operation))
    (i : Nat) :
    (lines options level pieces)[i]?
      = pieces[i]?.map (line options (levelAfter level (pieces.take i).flatten)) := by
  induction pieces generalizing level i with
  | nil => simp [lines]
  | cons piece later ih =>
      cases i with
      | zero => simp [lines, levelAfter]
      | succ i => simp [lines, ih, levelAfter]

theorem isSome_firstWriteLevel? (level : Nat) (segment : List Operation) :
    (firstWriteLevel? level segment).isSome = segment.any (·.written?.isSome) := by
  induction segment generalizing level with
  | nil => rfl
  | cons op segment ih =>
      rw [firstWriteLevel?, List.any_cons]
      split
      · next h => rw [h]; rfl
      · next h => rw [ih, Bool.eq_false_iff.2 h, Bool.false_or]

theorem firstWriteLevel?_add (h : deepestFall segment ≤ level) (k : Nat) :
    firstWriteLevel? (level + k) segment = (firstWriteLevel? level segment).map (· + k) := by
  induction segment generalizing level with
  | nil => rfl
  | cons op segment ih =>
      obtain ⟨hlevel, hrest⟩ := relevel_of_deepestFall_le h
      have hhigher : op.relevel (level + k) = op.relevel level + k := by
        show (((level + k : Nat) : Int) + op.indentChange).toNat = _
        omega
      rw [firstWriteLevel?, firstWriteLevel?]
      split
      · rfl
      · rw [hhigher, ih hrest]

/-- **A line that something is written on**, some levels deeper. -/
theorem line_add (h : deepestFall segment ≤ level)
    (hwritten : segment.any (·.written?.isSome) = true) (k : Nat) :
    line options (level + k) segment = options.indentation k ++ line options level segment := by
  rw [← isSome_firstWriteLevel? level, Option.isSome_iff_exists] at hwritten
  obtain ⟨atWrite, hatWrite⟩ := hwritten
  rw [line, line, firstWriteLevel?_add h, hatWrite]
  show options.indentation (atWrite + k) ++ _ = _
  rw [Nat.add_comm, LayoutOptions.indentation_add, String.append_assoc]

/-- A line that nothing is written on is empty, at any level. -/
theorem line_eq_empty (hwritten : segment.any (·.written?.isSome) = false) :
    line options level segment = "" := by
  rw [← isSome_firstWriteLevel? level, Option.isSome_eq_false_iff, Option.isNone_iff_eq_none]
    at hwritten
  rw [line, hwritten]

/-! ## §3. A block some levels deeper. -/

/-- The level that a segment starts at is high enough for it, and higher by as
much as the level that the first one starts at. -/
theorem levelAfter_take {pieces : List (List Operation)} (h : deepestFall pieces.flatten ≤ level)
    {i : Nat} (hsegment : pieces[i]? = some segment) (k : Nat) :
    deepestFall segment ≤ levelAfter level (pieces.take i).flatten
    ∧ levelAfter (level + k) (pieces.take i).flatten
        = levelAfter level (pieces.take i).flatten + k := by
  obtain ⟨hi, hget⟩ := List.getElem?_eq_some_iff.1 hsegment
  have hpieces : pieces.flatten
      = (pieces.take i).flatten ++ (segment ++ (pieces.drop (i + 1)).flatten) := by
    rw [← List.flatten_cons, ← hget, ← List.flatten_append, List.getElem_cons_drop,
      List.take_append_drop]
  rw [hpieces, deepestFall_append, deepestFall_append] at h
  have hfront : deepestFall (pieces.take i).flatten ≤ level := by omega
  have hlevel := levelAfter_of_deepestFall_le hfront
  refine ⟨?_, levelAfter_add hfront k⟩
  omega

end Rendering

namespace Listing

/-- A new listing, indented to some level. -/
def indented (options : LayoutOptions) (level : Nat) : Listing :=
  (run (List.replicate level (.request .increaseIndent)) (empty options)).state

theorem run_replicate_increaseIndent (n : Nat) (s : Listing) :
    (run (List.replicate n (.request .increaseIndent)) s).state
      = { s with page := { s.page with level := s.page.level + n } } := by
  induction n generalizing s with
  | zero => rfl
  | succ n ih =>
      rw [List.replicate_succ, state_run_cons, ih]
      show Listing.mk ⟨_, _, s.page.level + 1 + n, _⟩ _ = _
      rw [Nat.add_right_comm]
      rfl

theorem indented_eq (options : LayoutOptions) (level : Nat) :
    indented options level = ⟨⟨options, "", level, true⟩, .empty⟩ := by
  rw [indented, run_replicate_increaseIndent]
  show Listing.mk ⟨options, "", 0 + level, true⟩ _ = _
  rw [Nat.zero_add]
  rfl

/-- The lines of a block that is run on a new listing, and its text. -/
theorem cutLines_indented (options : LayoutOptions) (level : Nat) {block : List Operation}
    (h : ∀ op ∈ block, op.isReset = false) :
    cutLines block (indented options level)
        = (lines options level (segments block)).map some
    ∧ (run block (indented options level)).state.text
        = options.lineEnding.text.intercalate (lines options level (segments block)) := by
  rw [indented_eq]
  constructor
  · obtain ⟨segment, later, hsegments⟩ := exists_segments block
    have htext : (Listing.mk ⟨options, "", level, true⟩ .empty).text = "" ++ "" := rfl
    have hcut := slice?_lineRangesFrom h htext hsegments
    rw [String.empty_append] at hcut
    rw [hsegments]
    exact hcut
  · rw [text_run h]
    show "" ++ textFrom options level true block = _
    rw [String.empty_append, textFrom_true]
    rfl

/-- **A block nested deeper.**  Run a block on a new listing at some level, and
on another one `k` levels deeper; let the level be high enough for the block.
Cut both texts where the block ends a line.  There are as many lines in both,
one more than the block ends.  A line on which the block writes has `k` indent
units in front in the second text and is the same otherwise; a line on which
it writes nothing is empty in both.  And the second run ends `k` levels
deeper. -/
theorem cutLines_nested (options : LayoutOptions) (level k : Nat) {block : List Operation}
    (hreset : ∀ op ∈ block, op.isReset = false)
    (hlevel : ∀ n ≤ block.length, -balance (block.take n) ≤ level) :
    ∃ outer inner : List String,
      cutLines block (indented options level) = outer.map some
      ∧ cutLines block (indented options (level + k)) = inner.map some
      ∧ (run block (indented options level)).state.text
          = options.lineEnding.text.intercalate outer
      ∧ (run block (indented options (level + k))).state.text
          = options.lineEnding.text.intercalate inner
      ∧ outer.length = block.countP Operation.isLineBreak + 1
      ∧ inner.length = outer.length
      ∧ (∀ (i : Nat) (segment : List Operation), (segments block)[i]? = some segment →
          ∃ line, outer[i]? = some line
            ∧ (segment.any (·.written?.isSome) = true →
                inner[i]? = some (options.indentation k ++ line))
            ∧ (segment.any (·.written?.isSome) = false → line = "" ∧ inner[i]? = some ""))
      ∧ (run block (indented options (level + k))).state.level
          = (run block (indented options level)).state.level + k := by
  have hroom : deepestFall block ≤ level := deepestFall_le_iff.2 hlevel
  obtain ⟨houter, houterText⟩ := cutLines_indented options level hreset
  obtain ⟨hinner, hinnerText⟩ := cutLines_indented options (level + k) hreset
  refine ⟨lines options level (segments block), lines options (level + k) (segments block),
    houter, hinner, houterText, hinnerText, ?_, ?_, ?_, ?_⟩
  · rw [length_lines, length_segments]
  · rw [length_lines, length_lines]
  · intro i segment hsegment
    have hpieces : deepestFall (segments block).flatten ≤ level := by
      rw [deepestFall_flatten_segments]
      exact hroom
    obtain ⟨hstart, hdeeper⟩ := levelAfter_take hpieces hsegment k
    rw [getElem?_lines, getElem?_lines, hsegment, hdeeper]
    refine ⟨_, rfl, ?_, ?_⟩
    · intro hwritten
      rw [Option.map_some, line_add hstart hwritten]
    · intro hblank
      rw [Option.map_some, line_eq_empty hblank, line_eq_empty hblank]
      exact ⟨rfl, rfl⟩
  · rw [level_run hreset, level_run hreset, indented_eq, indented_eq]
    exact levelAfter_add hroom k

/-- A block that first goes one level out, from level one and from level three.
Its second line is blank; its third line begins with a fragment whose range is
not valid, and holds a line feed that does not end it. -/
theorem cutLines_nested_three_lines :
    ∃ outer inner : List String,
      cutLines [.request .decreaseIndent, .request (.writeText "if x" .keyword),
          .request .writeLine, .request .writeLine, .request .increaseIndent,
          .request (.write ((Fragment.ofText "y").withRange ⟨1, 9⟩)),
          .request (.writeText "ß\nz" .text), .request .increaseIndent]
        (indented ⟨"\t", .crlf⟩ 1) = outer.map some
      ∧ cutLines [.request .decreaseIndent, .request (.writeText "if x" .keyword),
          .request .writeLine, .request .writeLine, .request .increaseIndent,
          .request (.write ((Fragment.ofText "y").withRange ⟨1, 9⟩)),
          .request (.writeText "ß\nz" .text), .request .increaseIndent]
        (indented ⟨"\t", .crlf⟩ 3) = inner.map some
      ∧ inner[1]? = some ""
      ∧ ∃ line, outer[2]? = some line ∧ inner[2]? = some ("\t\t" ++ line) := by
  obtain ⟨outer, inner, houter, hinner, -, -, -, -, hlines, -⟩ :=
    @cutLines_nested ⟨"\t", .crlf⟩ 1 2
      [.request .decreaseIndent, .request (.writeText "if x" .keyword),
        .request .writeLine, .request .writeLine, .request .increaseIndent,
        .request (.write ((Fragment.ofText "y").withRange ⟨1, 9⟩)),
        .request (.writeText "ß\nz" .text), .request .increaseIndent] (by decide) (by decide)
  obtain ⟨_, -, -, hblank⟩ := hlines 1 [] rfl
  obtain ⟨line, hline, hnested, -⟩ := hlines 2 _ rfl
  exact ⟨outer, inner, houter, hinner, (hblank rfl).2, line, hline, hnested rfl⟩

end Listing

end MethodListing
