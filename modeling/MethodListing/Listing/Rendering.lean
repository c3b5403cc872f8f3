/-
  MethodListing.Listing.Rendering — A LISTING, LINE BY LINE.

  The text of a listing without pending marks and positions: cut the
  operations at the line breaks, and turn each segment into one line.  A line
  is empty if nothing is written in its segment; otherwise it is the
  indentation in force just before the first write, followed by everything
  that is written.

  All of it is about runs that do not start over.

  Main results:
    * `segments_ne_nil`     — there is always a last, unfinished line;
    * `length_segments`     — and one more line for every line break.
-/
import MethodListing.Listing.Operation

namespace MethodListing.Rendering

/-! ## §1. Segments. -/

/-- Cut the operations at the line breaks, which belong to no segment. -/
def segments (ops : List Operation) : List (List Operation) := ops.splitOnP Operation.isLineBreak

theorem segments_nil : segments [] = [[]] := List.splitOnP_nil

theorem segments_ne_nil (ops : List Operation) : segments ops ≠ [] := List.splitOnP_ne_nil _ ops

theorem exists_segments (ops : List Operation) :
    ∃ segment later, segments ops = segment :: later :=
  List.exists_cons_of_ne_nil (segments_ne_nil ops)

theorem segments_cons_of_isLineBreak {op : Operation} (h : op.isLineBreak = true)
    (ops : List Operation) : segments (op :: ops) = [] :: segments ops := by
  unfold segments
  rw [List.splitOnP_cons_eq_if_modifyHead, if_pos h]

theorem segments_cons {op : Operation} (h : op.isLineBreak = false) {ops segment : List Operation}
    {later : List (List Operation)} (hs : segments ops = segment :: later) :
    segments (op :: ops) = (op :: segment) :: later := by
  unfold segments at hs ⊢
  rw [List.splitOnP_cons_eq_if_modifyHead, if_neg (by simp [h]), hs, List.modifyHead_cons]

theorem segments_of_no_isLineBreak {ops : List Operation}
    (h : ∀ op ∈ ops, op.isLineBreak = false) : segments ops = [ops] := List.splitOnP_eq_singleton h

theorem length_segments (ops : List Operation) :
    (segments ops).length = ops.countP Operation.isLineBreak + 1 := by
  induction ops with
  | nil => rfl
  | cons op ops ih =>
      by_cases h : op.isLineBreak = true
      · rw [segments_cons_of_isLineBreak h, List.length_cons, ih, List.countP_cons_of_pos h]
      · obtain ⟨segment, later, hs⟩ := exists_segments ops
        rw [hs, List.length_cons] at ih
        rw [segments_cons (by simpa using h) hs, List.length_cons, ih, List.countP_cons_of_neg h]

/-! ## §2. Lines. -/

/-- The level after a sequence of operations. -/
def levelAfter (level : Nat) (ops : List Operation) : Nat :=
  ops.foldl (fun level op => op.relevel level) level

/-- The level just before the first write; `none` if nothing is written. -/
def firstWriteLevel? (level : Nat) : List Operation → Option Nat
  | [] => none
  | op :: ops =>
      if op.written?.isSome then some level else firstWriteLevel? (op.relevel level) ops

/-- All that is written, in order. -/
def contents (ops : List Operation) : String := String.join (ops.filterMap Operation.written?)

/-- **The line of a segment** that starts at some level. -/
def line (options : LayoutOptions) (level : Nat) (segment : List Operation) : String :=
  match firstWriteLevel? level segment with
  | none => ""
  | some atWrite => options.indentation atWrite ++ contents segment

/-- The lines of segments that follow each other. -/
def lines (options : LayoutOptions) : Nat → List (List Operation) → List String
  | _, [] => []
  | level, segment :: later =>
      line options level segment :: lines options (levelAfter level segment) later

theorem length_lines (options : LayoutOptions) (level : Nat) (segments : List (List Operation)) :
    (lines options level segments).length = segments.length := by
  induction segments generalizing level with
  | nil => rfl
  | cons segment later ih => rw [lines, List.length_cons, ih, List.length_cons]

/-! ## §3. The text. -/

/-- **The text of a run** that starts at some level: its lines, with line ends
between them. -/
def text (options : LayoutOptions) (level : Nat) (ops : List Operation) : String :=
  options.lineEnding.text.intercalate (lines options level (segments ops))

/-- The indentation that a run leaves to be written: none if something is
written on the last line, otherwise that of the level at the end. -/
def pendingIndentation (options : LayoutOptions) (level : Nat) (ops : List Operation) : String :=
  match (segments ops).getLast? with
  | none => ""
  | some segment =>
      if segment.any (·.written?.isSome) then ""
      else options.indentation (levelAfter level ops)

end MethodListing.Rendering
