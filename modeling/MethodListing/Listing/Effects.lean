/-
  MethodListing.Listing.Effects — WHAT AN OPERATION DOES TO EACH HALF.

  An operation concerns the text, or the announced method, or it starts over.
  What concerns one half leaves the other half as it is, log entries aside.
  All forms of writing come down to one: append what is written.  With that,
  the page changes by what it is and by the operation (`Page.after`), and the
  slots by what they are and by the operation (`DebugSlots.after`), never by
  what else the listing holds.

  Main results:
    * `page_apply_of_written?`        — every form of writing is an append;
    * `page_apply_of_concernsMethod`,
      `debug_apply_of_concernsText`   — the halves do not touch;
    * `page_apply`                    — one operation, seen from the page
      alone;
    * `level_apply`                   — how the level changes;
    * `options_run`                   — no run changes the options;
    * `state_run_reset`               — so starting over leaves a new listing;
    * `debug_apply`                   — one operation, seen from the slots
      alone;
    * `log_apply_congr`               — what an operation reports depends on
      the level and the announced method alone;
    * `page_run`, `debug_run`         — a run, seen from one half alone.
-/
import MethodListing.Listing.Operation

namespace MethodListing

namespace Listing

/-! ## §1. Writing. -/

/-- All forms of writing write a fragment. -/
theorem apply_of_fragment? {op : Operation} {fragment : Fragment}
    (h : op.fragment? = some fragment) (s : Listing) : apply op s = s.write fragment := by
  cases op with
  | announce token => simp [Operation.fragment?] at h
  | reset => simp [Operation.fragment?] at h
  | request request => cases request <;> cases h <;> rfl

/-- What is written is the content of a fragment. -/
theorem written?_eq (op : Operation) :
    op.written? = op.fragment?.map fun fragment => fragment.content?.getD "" := by
  cases op with
  | announce token => rfl
  | reset => rfl
  | request request => cases request <;> rfl

/-- Writing a fragment appends its content, or nothing if its range is not
valid: beginning the line is appending nothing. -/
theorem page_write (fragment : Fragment) (s : Listing) :
    (s.write fragment).state.page = s.page.append (fragment.content?.getD "") := by
  unfold write Fragment.content?
  cases fragment.selection with
  | ok content => rfl
  | error range =>
      show s.page.beginLine = s.page.append ""
      rw [Page.append_empty]

/-- **Every form of writing is an append.** -/
theorem page_apply_of_written? {op : Operation} {content : String}
    (h : op.written? = some content) (s : Listing) :
    (apply op s).state.page = s.page.append content := by
  rw [written?_eq] at h
  obtain ⟨fragment, hf, hc⟩ := Option.map_eq_some_iff.1 h
  rw [apply_of_fragment? hf, page_write, hc]

theorem debug_write (fragment : Fragment) (s : Listing) :
    (s.write fragment).state.debug = s.debug := by
  unfold write
  split <;> rfl

/-! ## §2. The halves do not touch. -/

/-- At level zero, decreasing the level changes nothing. -/
theorem page_decreaseIndent (s : Listing) :
    s.decreaseIndent.state.page = s.page.outdent := by
  unfold decreaseIndent
  split
  · rename_i h
    show s.page = s.page.outdent
    rw [Page.outdent, h, Nat.zero_sub, ← h]
  · rfl

theorem debug_decreaseIndent (s : Listing) : s.decreaseIndent.state.debug = s.debug := by
  unfold decreaseIndent
  split <;> rfl

/-- **What concerns the announced method leaves the text alone.** -/
theorem page_apply_of_concernsMethod {op : Operation} (h : op.concernsMethod = true)
    (s : Listing) : (apply op s).state.page = s.page := by
  cases op with
  | announce token => rfl
  | reset => simp [Operation.concernsMethod] at h
  | request request =>
      cases request with
      | attach data => cases data <;> rfl
      | _ => simp [Operation.concernsMethod] at h

/-- **What concerns the text leaves the announced method and its records
alone.** -/
theorem debug_apply_of_concernsText {op : Operation} (h : op.concernsText = true)
    (s : Listing) : (apply op s).state.debug = s.debug := by
  cases op using Operation.byForm with
  | write op fragment hf => rw [apply_of_fragment? hf, debug_write]
  | writeLine => rfl
  | increaseIndent => rfl
  | decreaseIndent => exact debug_decreaseIndent s
  | attach data => simp [Operation.concernsText, Operation.concernsMethod] at h
  | announce token => simp [Operation.concernsText, Operation.concernsMethod] at h
  | reset => simp [Operation.concernsText, Operation.isReset] at h

/-! ## §3. The page after an operation. -/

theorem relevel_of_indentChange_eq_zero {op : Operation} (h : op.indentChange = 0)
    (level : Nat) : op.relevel level = level := by
  simp [Operation.relevel, h]

/-- No form of writing asks for a change of the level. -/
theorem indentChange_of_written? {op : Operation} {content : String}
    (h : op.written? = some content) : op.indentChange = 0 := by
  cases op with
  | request request =>
      cases request with
      | increaseIndent => simp [Operation.written?] at h
      | decreaseIndent => simp [Operation.written?] at h
      | _ => rfl
  | _ => rfl

theorem relevel_of_written? {op : Operation} {content : String} (h : op.written? = some content)
    (level : Nat) : op.relevel level = level :=
  relevel_of_indentChange_eq_zero (indentChange_of_written? h) level

/-- What neither writes, nor ends a line, nor starts over changes the level
at most. -/
theorem page_apply_of_not_written? {op : Operation} (hw : op.written? = none)
    (hl : op.isLineBreak = false) (hr : op.isReset = false) (s : Listing) :
    (apply op s).state.page = { s.page with level := op.relevel s.page.level } := by
  cases op with
  | reset => simp [Operation.isReset] at hr
  | announce token =>
      rw [relevel_of_indentChange_eq_zero rfl]
      rfl
  | request request =>
      cases request with
      | writeLine => simp [Operation.isLineBreak] at hl
      | increaseIndent =>
          have hlevel : Operation.relevel (.request .increaseIndent) s.page.level
              = s.page.level + 1 := by
            show ((s.page.level : Int) + 1).toNat = _
            omega
          rw [hlevel]
          rfl
      | decreaseIndent =>
          -- both subtractions stop at zero
          have hlevel : Operation.relevel (.request .decreaseIndent) s.page.level
              = s.page.level - 1 := by
            show ((s.page.level : Int) + -1).toNat = _
            omega
          rw [hlevel]
          exact page_decreaseIndent s
      | attach data =>
          rw [page_apply_of_concernsMethod rfl, relevel_of_indentChange_eq_zero rfl]
      | _ => simp [Operation.written?] at hw

end Listing

/-- What an operation does to the page, whatever else the listing holds. -/
def Page.after (op : Operation) (p : Page) : Page :=
  if op.isReset then .blank p.options
  else if op.isLineBreak then p.breakLine
  else
    match op.written? with
    | some content => p.append content
    | none => { p with level := op.relevel p.level }

namespace Operation

variable {op : Operation} {content : String}

theorem eq_reset_of_isReset (h : op.isReset = true) : op = .reset := by
  cases op with
  | reset => rfl
  | _ => simp [isReset] at h

theorem eq_writeLine_of_isLineBreak (h : op.isLineBreak = true) : op = .request .writeLine := by
  cases op with
  | request request =>
      cases request with
      | writeLine => rfl
      | _ => simp [isLineBreak] at h
  | _ => simp [isLineBreak] at h

theorem isReset_of_written? (h : op.written? = some content) : op.isReset = false := by
  cases op with
  | reset => simp [written?] at h
  | _ => rfl

theorem isLineBreak_of_written? (h : op.written? = some content) : op.isLineBreak = false := by
  cases op with
  | request request =>
      cases request with
      | writeLine => simp [written?] at h
      | _ => rfl
  | _ => rfl

end Operation

namespace Page

variable {op : Operation}

theorem after_of_isReset (h : op.isReset = true) (p : Page) : p.after op = .blank p.options := by
  rw [after, if_pos h]

theorem after_of_isLineBreak (h : op.isLineBreak = true) (p : Page) : p.after op = p.breakLine := by
  rw [Operation.eq_writeLine_of_isLineBreak h]
  rfl

theorem after_of_written? {content : String} (h : op.written? = some content) (p : Page) :
    p.after op = p.append content := by
  rw [after, Operation.isReset_of_written? h, Operation.isLineBreak_of_written? h, h]
  rfl

theorem after_of_not_written? (hw : op.written? = none) (hl : op.isLineBreak = false)
    (hr : op.isReset = false) (p : Page) :
    p.after op = { p with level := op.relevel p.level } := by
  rw [after, hr, hl, hw]
  rfl

theorem level_after (h : op.isReset = false) (p : Page) :
    (p.after op).level = op.relevel p.level := by
  by_cases hl : op.isLineBreak = true
  · rw [after_of_isLineBreak hl, Operation.eq_writeLine_of_isLineBreak hl]
    exact (Listing.relevel_of_indentChange_eq_zero rfl _).symm
  · cases hw : op.written? with
    | some content =>
        rw [after_of_written? hw, level_append, Listing.relevel_of_written? hw]
    | none => rw [after_of_not_written? hw (by simpa using hl) h]

theorem options_after (op : Operation) (p : Page) : (p.after op).options = p.options := by
  unfold after
  split
  · rfl
  · split
    · rfl
    · split
      · exact options_append _ p
      · rfl

end Page

namespace Listing

/-- **One operation, seen from the page alone.** -/
theorem page_apply (op : Operation) (s : Listing) :
    (apply op s).state.page = s.page.after op := by
  by_cases hr : op.isReset = true
  · rw [Page.after_of_isReset hr, Operation.eq_reset_of_isReset hr]
    rfl
  · by_cases hl : op.isLineBreak = true
    · rw [Page.after_of_isLineBreak hl, Operation.eq_writeLine_of_isLineBreak hl]
      rfl
    · have hr' : op.isReset = false := by simpa using hr
      have hl' : op.isLineBreak = false := by simpa using hl
      cases hw : op.written? with
      | some content => rw [page_apply_of_written? hw, Page.after_of_written? hw]
      | none =>
          rw [page_apply_of_not_written? hw hl' hr', Page.after_of_not_written? hw hl' hr']

/-! ## §4. Level and options. -/

/-- **How the level changes**: by what the operation asks for, but never below
zero. -/
theorem level_apply {op : Operation} (h : op.isReset = false) (s : Listing) :
    (apply op s).state.level = op.relevel s.level := by
  show (apply op s).state.page.level = _
  rw [page_apply, Page.level_after h]
  rfl

/-- No operation changes the options. -/
theorem options_apply (op : Operation) (s : Listing) :
    (apply op s).state.options = s.options := by
  show (apply op s).state.page.options = _
  rw [page_apply, Page.options_after]
  rfl

/-- **No run changes the options.** -/
theorem options_run (ops : List Operation) (s : Listing) :
    (run ops s).state.options = s.options := by
  induction ops generalizing s with
  | nil => rfl
  | cons op ops ih => rw [state_run_cons, ih, options_apply]

/-- **Starting over leaves a new listing**, with the options of the old one. -/
theorem state_run_reset (options : LayoutOptions) (ops : List Operation) :
    (apply .reset (run ops (empty options)).state).state = empty options := by
  have hoptions : (run ops (empty options)).state.page.options = options := options_run ops _
  show (run ops (empty options)).state.reset = empty options
  rw [reset_eq_empty, hoptions]

end Listing

/-! ## §5. The slots after an operation. -/

/-- What an operation does to the debug slots, whatever else the listing holds. -/
def DebugSlots.after (op : Operation) (d : DebugSlots) : DebugSlots :=
  match op with
  | .reset => .empty
  | .announce token => d.announce token
  | .request (.attach (.debugRecord r)) => (d.accept r).state
  | .request _ => d

namespace Listing

/-- **One operation, seen from the slots alone.** -/
theorem debug_apply (op : Operation) (s : Listing) :
    (apply op s).state.debug = s.debug.after op := by
  cases op with
  | announce token => rfl
  | reset => rfl
  | request request =>
      cases request with
      | attach data => cases data <;> rfl
      | _ => exact debug_apply_of_concernsText rfl s

/-! ## §6. The entries of an operation. -/

theorem log_accept_congr {d d' : DebugSlots} (h : d.announced = d'.announced) (r : DebugRecord) :
    (d.accept r).log = (d'.accept r).log := by
  unfold DebugSlots.accept
  rw [h]
  split
  · rfl
  · split <;> rfl

/-- **What an operation reports** depends on the level and on the announced
method, and on nothing else that the listing holds. -/
theorem log_apply_congr {s s' : Listing} (hlevel : s.level = s'.level)
    (hannounced : s.announced = s'.announced) (op : Operation) :
    (apply op s).log = (apply op s').log := by
  cases op using Operation.byForm with
  | write op fragment hf =>
      -- whether its range is valid is decided by the fragment alone
      rw [apply_of_fragment? hf, apply_of_fragment? hf]
      unfold write
      split <;> rfl
  | writeLine => rfl
  | increaseIndent => rfl
  | decreaseIndent =>
      have hlevel : s.page.level = s'.page.level := hlevel
      have hannounced : s.debug.announced = s'.debug.announced := hannounced
      show s.decreaseIndent.log = s'.decreaseIndent.log
      unfold decreaseIndent
      rw [hlevel, hannounced]
      split <;> rfl
  | attach data =>
      cases data with
      | debugRecord r => exact log_accept_congr hannounced r
      | _ => rfl
  | announce token => rfl
  | reset => rfl

/-! ## §7. Runs, from one half. -/

/-- **A run, seen from the page alone.** -/
theorem page_run (ops : List Operation) (s : Listing) :
    (run ops s).state.page = ops.foldl (fun p op => p.after op) s.page := by
  induction ops generalizing s with
  | nil => rfl
  | cons op ops ih => rw [state_run_cons, ih, page_apply, List.foldl_cons]

/-- **A run, seen from the slots alone.** -/
theorem debug_run (ops : List Operation) (s : Listing) :
    (run ops s).state.debug = ops.foldl (fun d op => d.after op) s.debug := by
  induction ops generalizing s with
  | nil => rfl
  | cons op ops ih => rw [state_run_cons, ih, debug_apply, List.foldl_cons]

end Listing

end MethodListing
