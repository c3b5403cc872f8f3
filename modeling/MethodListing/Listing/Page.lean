/-
  MethodListing.Listing.Page — THE TEXT OF A LISTING.

  Indentation is LAZY.  Ending a line only marks the new line as not begun;
  its indentation is written together with the first thing on it, at the
  level in force by then.  A line that nothing is written on stays empty.

  Main results:
    * `append_empty`        — appending nothing still begins the line;
    * `append_append`       — two appends are one of both texts;
    * `nextPosition_eq`     — the next position is where the text will be once
      the line is begun.
-/
import MethodListing.LayoutOptions

namespace MethodListing

/-- The text written so far, and what the next line needs to know. -/
structure Page where
  /-- How lines are laid out. -/
  options : LayoutOptions
  /-- The text so far. -/
  text : String
  /-- The indentation level. -/
  level : Nat
  /-- Whether the current line still lacks its indentation. -/
  indentPending : Bool
  deriving Repr, DecidableEq

namespace Page

/-! ## §1. Operations. -/

/-- An empty page. -/
def blank (options : LayoutOptions) : Page := ⟨options, "", 0, true⟩

/-- Write the indentation of the current line, unless it is there. -/
def beginLine (p : Page) : Page :=
  if p.indentPending then
    { p with text := p.text ++ p.options.indentation p.level, indentPending := false }
  else p

/-- **Append a text**, beginning the line first. -/
def append (content : String) (p : Page) : Page :=
  let begun := p.beginLine
  { begun with text := begun.text ++ content }

/-- End the current line.  What ends it is never indented. -/
def breakLine (p : Page) : Page :=
  { p with text := p.text ++ p.options.lineEnding.text, indentPending := true }

/-- Indent what follows by one more level. -/
def indent (p : Page) : Page := { p with level := p.level + 1 }

/-- Indent what follows by one level less, but never by less than none. -/
def outdent (p : Page) : Page := { p with level := p.level - 1 }

/-! ## §2. Positions. -/

/-- The number of bytes written. -/
def length (p : Page) : Nat := p.text.utf8ByteSize

/-- **Where the next text will start**, behind any indentation that is still
to be written. -/
def nextPosition (p : Page) : Nat :=
  p.length + if p.indentPending then p.level * p.options.indentUnit.utf8ByteSize else 0

/-! ## §3. Laws. -/

@[simp] theorem options_beginLine (p : Page) : p.beginLine.options = p.options := by
  unfold beginLine; split <;> rfl

@[simp] theorem level_beginLine (p : Page) : p.beginLine.level = p.level := by
  unfold beginLine; split <;> rfl

@[simp] theorem indentPending_beginLine (p : Page) : p.beginLine.indentPending = false := by
  unfold beginLine
  split
  · rfl
  · rename_i h; simpa using h

@[simp] theorem level_append (content : String) (p : Page) :
    (p.append content).level = p.level := level_beginLine p

@[simp] theorem options_append (content : String) (p : Page) :
    (p.append content).options = p.options := options_beginLine p

theorem beginLine_of_not_pending {p : Page} (h : p.indentPending = false) :
    p.beginLine = p := by
  simp [beginLine, h]

theorem nextPosition_eq (p : Page) : p.nextPosition = p.beginLine.length := by
  unfold nextPosition beginLine
  split
  · simp [length, String.utf8ByteSize_append, LayoutOptions.utf8ByteSize_indentation]
  · rfl

theorem append_empty (p : Page) : p.append "" = p.beginLine := by
  simp only [append, String.append_empty]

theorem append_append (a b : String) (p : Page) :
    (p.append a).append b = p.append (a ++ b) := by
  have h : (p.append a).indentPending = false := by simp [append]
  rw [append.eq_def b, beginLine_of_not_pending h]
  simp [append, String.append_assoc]

end Page

end MethodListing
