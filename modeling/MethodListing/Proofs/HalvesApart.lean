/-
  MethodListing.Proofs.HalvesApart — TEXT AND DEBUG RECORDS DO NOT MEET.

  A run mixes two streams of operations: those that concern the text, and
  those that concern the announced method.  A new start belongs to both.
  Each half of a listing is the fold of its own stream, because the other
  stream's operations do nothing to it; so two runs that agree in one of the
  streams agree in that half, however the other stream is woven in.

  Main results:
    * `page_run_filter`, `debug_run_filter` — a half follows from its stream;
    * `run_halves_apart`                    — two runs, compared by streams.
-/
import MethodListing.Listing.Effects

namespace MethodListing

/-! ## §1. Two streams. -/

namespace Operation

/-- Whether the operation belongs to the stream of the text. -/
def inTextStream (op : Operation) : Bool := op.concernsText || op.isReset

/-- Whether the operation belongs to the stream of the announced method. -/
def inMethodStream (op : Operation) : Bool := op.concernsMethod || op.isReset

theorem concernsMethod_of_not_inTextStream {op : Operation} (h : op.inTextStream = false) :
    op.concernsMethod = true := by
  unfold inTextStream concernsText at h
  cases hm : op.concernsMethod with
  | true => rfl
  | false => cases hr : op.isReset <;> simp [hm, hr] at h

theorem concernsText_of_not_inMethodStream {op : Operation} (h : op.inMethodStream = false) :
    op.concernsText = true := by
  unfold inMethodStream at h
  rw [Bool.or_eq_false_iff] at h
  simp [concernsText, h.1, h.2]

end Operation

/-! ## §2. The other stream does nothing. -/

theorem Page.after_of_concernsMethod {op : Operation} (h : op.concernsMethod = true) (p : Page) :
    p.after op = p := by
  have hpage := Listing.page_apply op ⟨p, .empty⟩
  rw [Listing.page_apply_of_concernsMethod h] at hpage
  exact hpage.symm

theorem DebugSlots.after_of_concernsText {op : Operation} (h : op.concernsText = true)
    (d : DebugSlots) : d.after op = d := by
  have hdebug := Listing.debug_apply op ⟨.blank default, d⟩
  rw [Listing.debug_apply_of_concernsText h] at hdebug
  exact hdebug.symm

namespace Listing

/-- **The page follows from the stream of the text.** -/
theorem page_run_filter (ops : List Operation) (s : Listing) :
    (run ops s).state.page
      = (ops.filter Operation.inTextStream).foldl (fun p op => p.after op) s.page := by
  rw [page_run, List.foldl_filter]
  congr 1
  funext p op
  by_cases h : op.inTextStream = true
  · rw [if_pos h]
  · rw [if_neg h]
    exact Page.after_of_concernsMethod
      (Operation.concernsMethod_of_not_inTextStream (by simpa using h)) p

/-- **The slots follow from the stream of the announced method.** -/
theorem debug_run_filter (ops : List Operation) (s : Listing) :
    (run ops s).state.debug
      = (ops.filter Operation.inMethodStream).foldl (fun d op => d.after op) s.debug := by
  rw [debug_run, List.foldl_filter]
  congr 1
  funext d op
  by_cases h : op.inMethodStream = true
  · rw [if_pos h]
  · rw [if_neg h]
    exact DebugSlots.after_of_concernsText
      (Operation.concernsText_of_not_inMethodStream (by simpa using h)) d

/-! ## §3. Two runs. -/

theorem eq_of_halves {s s' : Listing} (hpage : s.page = s'.page) (hdebug : s.debug = s'.debug) :
    s = s' := by
  obtain ⟨page, debug⟩ := s
  obtain ⟨page', debug'⟩ := s'
  cases hpage
  cases hdebug
  rfl

/-- **Text and debug records never influence each other.**  Runs with the same
stream of text end with the same text, length, next position and level,
whatever methods were announced and whatever was attached; runs with the same
stream of announcements and attachments end with the same announced method and
show the same records, whatever was written.  All ways to weave one stream of
each kind together end in one state. -/
theorem run_halves_apart (options : LayoutOptions) (ops ops' : List Operation) :
    (ops.filter Operation.inTextStream = ops'.filter Operation.inTextStream →
      (run ops (empty options)).state.text = (run ops' (empty options)).state.text
      ∧ (run ops (empty options)).state.length = (run ops' (empty options)).state.length
      ∧ (run ops (empty options)).state.nextPosition
          = (run ops' (empty options)).state.nextPosition
      ∧ (run ops (empty options)).state.level = (run ops' (empty options)).state.level)
    ∧ (ops.filter Operation.inMethodStream = ops'.filter Operation.inMethodStream →
      (run ops (empty options)).state.announced = (run ops' (empty options)).state.announced
      ∧ (run ops (empty options)).state.debugRecord?
          = (run ops' (empty options)).state.debugRecord?)
    ∧ (ops.filter Operation.inTextStream = ops'.filter Operation.inTextStream →
      ops.filter Operation.inMethodStream = ops'.filter Operation.inMethodStream →
      (run ops (empty options)).state = (run ops' (empty options)).state) := by
  have hpage : ops.filter Operation.inTextStream = ops'.filter Operation.inTextStream →
      (run ops (empty options)).state.page = (run ops' (empty options)).state.page := by
    intro h
    rw [page_run_filter, page_run_filter, h]
  have hdebug : ops.filter Operation.inMethodStream = ops'.filter Operation.inMethodStream →
      (run ops (empty options)).state.debug = (run ops' (empty options)).state.debug := by
    intro h
    rw [debug_run_filter, debug_run_filter, h]
  refine ⟨?_, ?_, ?_⟩
  · intro h
    -- all four are read off the page
    have hsame := hpage h
    exact ⟨congrArg Page.text hsame, congrArg Page.length hsame,
      congrArg Page.nextPosition hsame, congrArg Page.level hsame⟩
  · intro h
    have hsame := hdebug h
    exact ⟨congrArg DebugSlots.announced hsame, congrArg DebugSlots.lookup? hsame⟩
  · intro htext hmethod
    exact eq_of_halves (hpage htext) (hdebug hmethod)

/-- Two ways to weave three lines and the records of two cycles together. -/
theorem run_halves_apart_two_cycles :
    (run [.request (.writeText "a" .text), .announce ⟨0x06000001⟩, .request .writeLine, .reset,
          .announce ⟨0x06000002⟩, .request .decreaseIndent, .request .increaseIndent,
          .request (.attach (.debugRecord (.ofMethod "IL" ⟨⟨0x06000002⟩, "Run", none⟩))),
          .request (.writeText "b" .text), .request (.attach (.lineSeparator 4))]
        (empty default)).state
      = (run [.announce ⟨0x06000001⟩, .request (.writeText "a" .text), .request .writeLine, .reset,
          .request .decreaseIndent, .request .increaseIndent, .request (.writeText "b" .text),
          .announce ⟨0x06000002⟩,
          .request (.attach (.debugRecord (.ofMethod "IL" ⟨⟨0x06000002⟩, "Run", none⟩))),
          .request (.attach (.lineSeparator 4))]
        (empty default)).state :=
  (run_halves_apart default _ _).2.2 rfl rfl

end Listing

end MethodListing
