/-
  MethodListing.Proofs.SourceSpan — RECORDED SPANS STAY RIGHT.

  A producer that wants to know later where a piece of its text went takes
  the next position before it writes and the length afterwards.  Between the
  two lies exactly what it wrote, as if it had been written on a line of its
  own that is begun already: the indentation of the first line is left of the
  span, and nothing that is written later reaches into it.

  Main results:
    * `nextPosition_eq_utf8ByteSize` — the next position, as the length of the
      text with the indentation that is due;
    * `slice?_recorded_span`         — what a recorded span selects, for good.
-/
import MethodListing.Proofs.PageRun

namespace MethodListing.Listing

open Rendering

/-! ## §1. What is due, and what follows. -/

/-- A new listing at some level, with its first line begun already. -/
def begun (options : LayoutOptions) (level : Nat) : Listing where
  page := ⟨options, "", level, false⟩
  debug := .empty

/-- The indentation that the next text will be written behind. -/
def dueIndentation (s : Listing) : String :=
  if s.page.indentPending then s.options.indentation s.level else ""

/-- To append is to write the indentation that is due, and the content. -/
theorem page_append_eq (content : String) (s : Listing) :
    s.page.append content
      = { s.page with text := s.text ++ s.dueIndentation ++ content, indentPending := false } := by
  unfold Page.append Page.beginLine dueIndentation
  split
  · rfl
  · next h =>
    have hbegun : s.page.indentPending = false := by simpa using h
    rw [String.append_empty]
    show _ = Page.mk _ _ _ _
    rw [← hbegun]
    rfl

theorem nextPosition_eq_utf8ByteSize (s : Listing) :
    s.nextPosition = (s.text ++ s.dueIndentation).utf8ByteSize := by
  show s.page.text.utf8ByteSize + _ = _
  rw [String.utf8ByteSize_append, dueIndentation]
  congr 1
  split
  · exact (LayoutOptions.utf8ByteSize_indentation _ _).symm
  · rfl

/-- A new listing on a begun line shows what a run appends to a begun line. -/
theorem text_run_begun (options : LayoutOptions) (level : Nat) {ops : List Operation}
    (h : ∀ op ∈ ops, op.isReset = false) :
    (run ops (begun options level)).state.text = textFrom options level false ops := by
  rw [text_run h]
  exact String.empty_append

/-- A run that begins by writing appends the indentation that is due, and
then what it would append to a begun line. -/
theorem text_run_of_written? {op : Operation} (hw : op.written?.isSome = true)
    {ops : List Operation} (h : ∀ o ∈ op :: ops, o.isReset = false) (s : Listing) :
    (run (op :: ops) s).state.text
      = s.text ++ s.dueIndentation ++ (run (op :: ops) (begun s.options s.level)).state.text := by
  obtain ⟨content, hcontent⟩ := Option.isSome_iff_exists.1 hw
  rw [text_run h, text_run_begun _ _ h, textFrom_cons_of_written? _ _ _ hcontent,
    textFrom_cons_of_written? _ _ _ hcontent, String.append_assoc]
  simp [dueIndentation]

/-- Later operations write behind what is there. -/
theorem exists_text_run_append (ops : List Operation) {later : List Operation}
    (h : ∀ op ∈ later, op.isReset = false) (s : Listing) :
    ∃ after, (run (ops ++ later) s).state.text = (run ops s).state.text ++ after := by
  rw [run_append, Logged.state_andThen, text_run h]
  exact ⟨_, rfl⟩

/-! ## §2. Spans. -/

/-- A span of text from one position to another ends at the second, as long
as that fits. -/
theorem toNat_stop_ofNat {start stop : Nat} (h : start ≤ stop) (hsize : stop < UInt64.size) :
    (TextSpan.mk (.ofNat start) (.ofNat (stop - start))).stop.toNat = stop := by
  have hstart : (UInt64.ofNat start).toNat = start := UInt64.toNat_ofNat_of_lt (by omega)
  have hlength : (UInt64.ofNat (stop - start)).toNat = stop - start :=
    UInt64.toNat_ofNat_of_lt (by omega)
  have hsum : start + (stop - start) = stop := by omega
  rw [TextSpan.stop, hstart, hlength, hsum, UInt64.ofNatClamp_eq_ofNat _ hsize]
  exact UInt64.toNat_ofNat_of_lt hsize

/-- **A recorded span selects what was written, for good.**  Let a block of
operations begin by writing, take the next position before it and the length
after it, and let anything happen later.  The two are character boundaries of
the text at the end, in order, and what lies between them is the text of the
block alone, on a line that is begun already. -/
theorem slice?_recorded_span (s : Listing) (first : Operation) (block later : List Operation)
    (hfirst : first.written?.isSome = true)
    (hblock : ∀ op ∈ first :: block, op.isReset = false)
    (hlater : ∀ op ∈ later, op.isReset = false) :
    s.nextPosition ≤ (run (first :: block) s).state.length
    ∧ (run (first :: block) s).state.length
        ≤ (run (first :: block ++ later) s).state.text.utf8ByteSize
    ∧ String.Pos.Raw.IsValid (run (first :: block ++ later) s).state.text ⟨s.nextPosition⟩
    ∧ String.Pos.Raw.IsValid (run (first :: block ++ later) s).state.text
        ⟨(run (first :: block) s).state.length⟩
    ∧ ((run (first :: block) s).state.length < UInt64.size →
        (TextSpan.mk (.ofNat s.nextPosition)
          (.ofNat ((run (first :: block) s).state.length - s.nextPosition))).stop.toNat
          = (run (first :: block) s).state.length)
    ∧ (ByteRange.mk s.nextPosition (run (first :: block) s).state.length).slice?
          (run (first :: block ++ later) s).state.text
        = some (run (first :: block) (begun s.options s.level)).state.text := by
  have hstart := nextPosition_eq_utf8ByteSize s
  have htext := text_run_of_written? hfirst hblock s
  obtain ⟨after, hafter⟩ := exists_text_run_append (first :: block) hlater s
  have hlength : (run (first :: block) s).state.length
      = (run (first :: block) s).state.text.utf8ByteSize := rfl
  -- from here on only the three pieces matter: before the span, in it, behind it
  generalize s.text ++ s.dueIndentation = before at hstart htext
  generalize (run (first :: block) (begun s.options s.level)).state.text = own at htext ⊢
  rw [hafter, hlength, hstart, htext]
  have hle : before.utf8ByteSize ≤ (before ++ own).utf8ByteSize := by
    rw [String.utf8ByteSize_append]
    omega
  have hend := isValid_iff_exists_split.2 ⟨before ++ own, after, rfl, rfl⟩
  refine ⟨hle, ?_, ?_, hend, toNat_stop_ofNat hle, ?_⟩
  · rw [@String.utf8ByteSize_append (before ++ own) after]
    omega
  · exact isValid_iff_exists_split.2 ⟨before, own ++ after, String.append_assoc, rfl⟩
  · rw [ByteRange.slice?_eq_some_iff]
    exact ⟨before, after, rfl, rfl, rfl⟩

/-- The span of two lines, the second of which begins with a fragment whose
range is not valid; one more line follows. -/
theorem slice?_recorded_span_two_lines :
    (ByteRange.mk 7 18).slice?
        (run ([.request (.writeText "if x" .keyword), .request .writeLine,
            .request .increaseIndent, .request (.write ((Fragment.ofText "y").withRange ⟨1, 9⟩)),
            .request (.writeText "ß" .text)]
          ++ [.request .writeLine, .request (.writeText "end" .keyword)])
          (run [.request .increaseIndent, .request (.writeText "é" .text), .request .writeLine]
            (empty ⟨"  ", .lf⟩)).state).state.text
      = some "if x\n    ß" := by
  have h := slice?_recorded_span
    (run [.request .increaseIndent, .request (.writeText "é" .text), .request .writeLine]
      (empty ⟨"  ", .lf⟩)).state
    (.request (.writeText "if x" .keyword))
    [.request .writeLine, .request .increaseIndent,
      .request (.write ((Fragment.ofText "y").withRange ⟨1, 9⟩)), .request (.writeText "ß" .text)]
    [.request .writeLine, .request (.writeText "end" .keyword)]
    (by decide) (by decide) (by decide)
  exact h.2.2.2.2.2

end MethodListing.Listing
