/-
  MethodListing.Proofs.WriteGroups — HOW TEXT IS CUT DOES NOT MATTER.

  A producer may send a text in one piece or in many, as texts, as references
  or as ranges of longer texts, and annotate each piece as it likes.  Writes
  that follow each other add up to one write of everything they select: only
  the first of them can find a line that is not begun, and it begins the line
  whatever it selects.  The group must not be empty, because a write of the
  empty text is not the same as no write.

  Main results:
    * `state_run_writes` — a group of writes is one append;
    * `run_regrouped`    — so any other group with the same contents may stand
      in its place.
-/
import MethodListing.Listing.Observation
import MethodListing.Proofs.SourceSpan

namespace MethodListing.Listing

open Rendering

/-! ## §1. One write. -/

theorem state_apply_of_written? {op : Operation} {content : String}
    (h : op.written? = some content) (s : Listing) :
    (apply op s).state = { s with page := s.page.append content } := by
  have hdebug : (apply op s).state.debug = s.debug := by
    rw [written?_eq] at h
    obtain ⟨fragment, hfragment, -⟩ := Option.map_eq_some_iff.1 h
    rw [apply_of_fragment? hfragment, debug_write]
  show Listing.mk (apply op s).state.page (apply op s).state.debug = _
  rw [page_apply_of_written? h, hdebug]

/-- A fragment with a valid range is the text that it selects. -/
theorem write_eq_writeText {fragment : Fragment} {range : ByteRange} {content : String}
    (hrange : fragment.range = some range) (hslice : range.slice? fragment.text = some content)
    (style : TextStyle) (s : Listing) :
    apply (.request (.write fragment)) s = apply (.request (.writeText content style)) s := by
  have hselection : fragment.selection = .ok content := by
    unfold Fragment.selection
    rw [hrange]
    simp only [hslice]
  show s.write fragment = _
  unfold write
  rw [hselection]
  rfl

/-! ## §2. Groups of writes. -/

/-- **Writes that follow each other** are one append of all their contents. -/
theorem state_run_writes {group : List Operation} (hne : group ≠ [])
    (hwrites : ∀ op ∈ group, op.written?.isSome = true) (s : Listing) :
    (run group s).state = { s with page := s.page.append (contents group) } := by
  induction group generalizing s with
  | nil => exact absurd rfl hne
  | cons op ops ih =>
      obtain ⟨content, hcontent⟩ := Option.isSome_iff_exists.1 (hwrites op List.mem_cons_self)
      rw [state_run_cons, state_apply_of_written? hcontent, contents_cons hcontent]
      by_cases hops : ops = []
      · subst hops
        show ({ s with page := s.page.append content } : Listing) = _
        rw [show contents [] = "" from rfl, String.append_empty]
      · -- the line is begun by now, so the rest goes right behind the first content
        rw [ih hops fun o ho => hwrites o (List.mem_cons_of_mem op ho)]
        show ({ s with page := (s.page.append content).append (contents ops) } : Listing) = _
        rw [Page.append_append]

theorem contents_eq_empty {group : List Operation} (h : ∀ op ∈ group, op.written? = some "") :
    contents group = "" := by
  induction group with
  | nil => rfl
  | cons op ops ih =>
      rw [contents_cons (h op List.mem_cons_self), String.empty_append]
      exact ih fun o ho => h o (List.mem_cons_of_mem op ho)

/-! ## §3. Regrouping. -/

theorem drop_trace (before group after : List Operation) (s : Listing) :
    (trace (before ++ group ++ after) s).drop (before.length + group.length)
      = trace after (run (before ++ group) s).state := by
  have hlength : before.length + group.length = (trace (before ++ group) s).length := by
    rw [length_trace, List.length_append]
  rw [trace_append, hlength, List.drop_left]

/-- **How text is cut and annotated does not matter.**  In a run, let a group
of writes stand in the place of another one with the same contents, neither of
them empty.  Right behind the group the listing is the same, so is all that is
seen of it later on, and so it is at the end.  As special cases, a fragment
with a valid range is the same as a write of the text that it selects; and a
group that writes empty texts only, or fragments with invalid ranges, is the
same as one write of the empty text: it writes the indentation that is due. -/
theorem run_regrouped (s : Listing) (before after group group' : List Operation)
    (hne : group ≠ []) (hne' : group' ≠ [])
    (hwrites : ∀ op ∈ group, op.written?.isSome = true)
    (hwrites' : ∀ op ∈ group', op.written?.isSome = true)
    (hcontents : contents group = contents group') :
    (run (before ++ group) s).state = (run (before ++ group') s).state
    ∧ (trace (before ++ group ++ after) s).drop (before.length + group.length)
        = (trace (before ++ group' ++ after) s).drop (before.length + group'.length)
    ∧ (run (before ++ group ++ after) s).state = (run (before ++ group' ++ after) s).state
    ∧ (∀ (fragment : Fragment) (range : ByteRange) (content : String) (style : TextStyle)
        (t : Listing), fragment.range = some range → range.slice? fragment.text = some content →
        apply (.request (.write fragment)) t = apply (.request (.writeText content style)) t)
    ∧ (∀ (ops : List Operation) (style : TextStyle) (t : Listing), ops ≠ [] →
        (∀ op ∈ ops, op.written? = some "") →
        (run ops t).state = (apply (.request (.writeText "" style)) t).state
        ∧ (run ops t).state.text = t.text ++ t.dueIndentation) := by
  have hgroup : (run (before ++ group) s).state = (run (before ++ group') s).state := by
    rw [run_append, Logged.state_andThen, state_run_writes hne hwrites, run_append,
      Logged.state_andThen, state_run_writes hne' hwrites', hcontents]
  refine ⟨hgroup, ?_, ?_, ?_, ?_⟩
  · rw [drop_trace, drop_trace, hgroup]
  · rw [run_append, Logged.state_andThen, run_append (before ++ group'), Logged.state_andThen,
      hgroup]
  · intro fragment range content style t hrange hslice
    exact write_eq_writeText hrange hslice style t
  · intro ops style t hops hempty
    have hwritten : ∀ op ∈ ops, op.written?.isSome = true := by
      intro op hop
      rw [hempty op hop]
      rfl
    rw [state_run_writes hops hwritten, contents_eq_empty hempty]
    refine ⟨rfl, ?_⟩
    -- nothing is written, but the line is begun
    show (t.page.append "").text = _
    rw [page_append_eq]
    exact String.append_empty

/-- A word in one piece, and in three of which one is cut out of a longer text
and one has a range that ends inside a character; both on a new line. -/
theorem run_regrouped_three_pieces :
    (run ([.request .increaseIndent, .request .writeLine]
        ++ [.request (.writeReference "größe" (.localName "x") ⟨0x80⟩ .parameter)]
        ++ [.request .writeLine]) (empty default)).state
      = (run ([.request .increaseIndent, .request .writeLine]
        ++ [.request (.write ((Fragment.ofText "ß").withRange ⟨0, 1⟩)),
          .request (.write ((Fragment.ofText "die größte").withRange ⟨4, 10⟩)),
          .request (.writeText "e" .text)]
        ++ [.request .writeLine]) (empty default)).state :=
  (run_regrouped (empty default) [.request .increaseIndent, .request .writeLine]
    [.request .writeLine]
    [.request (.writeReference "größe" (.localName "x") ⟨0x80⟩ .parameter)]
    [.request (.write ((Fragment.ofText "ß").withRange ⟨0, 1⟩)),
      .request (.write ((Fragment.ofText "die größte").withRange ⟨4, 10⟩)),
      .request (.writeText "e" .text)]
    (by decide) (by decide) (by decide) (by decide) (by decide)).2.2.1

end MethodListing.Listing
