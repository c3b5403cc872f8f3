/-
  MethodListing.Proofs.SubRange — WHICH RANGES SELECT WHAT.

  A fragment may be a range of its text, given by two byte positions, and
  nothing is required of the two.  A position lies between two characters,
  inside one, or behind the whole text.  A range selects something if it is
  not reversed and both its ends lie between characters, and then it selects
  what lies between them; in all other cases it selects nothing, also if it
  is empty.

  So a range of a selection can be given in positions of the whole text
  instead.  And whatever else is done to a fragment while it is made, in
  whatever order, only the last range that was set matters.

  Main results:
    * `position_cases`       — where a position can lie;
    * `slice?_eq_none_iff`   — when a range selects nothing;
    * `slice?_slice?`        — a range of a selection, seen from the text;
    * `content?_build`       — fragments, made in any order of steps;
    * `content?_sub_range`   — all of it, for the content of a fragment.
-/
import MethodListing.Fragment.Basic

namespace MethodListing

/-! ## §1. Positions in a text. -/

/-- A position behind some bytes of a character and before others. -/
def InsideCharacter (n : Nat) (text : String) : Prop :=
  ∃ (front : String) (c : Char) (back : String), text = front ++ String.singleton c ++ back
    ∧ front.utf8ByteSize < n ∧ n < front.utf8ByteSize + c.utf8Size

/-- Where a position can lie, character by character. -/
theorem position_cases_chars (n : Nat) (cs : List Char) :
    (∃ front back, cs = front ++ back ∧ utf8Length front = n)
    ∨ (∃ front c back, cs = front ++ c :: back
        ∧ utf8Length front < n ∧ n < utf8Length front + c.utf8Size)
    ∨ utf8Length cs < n := by
  induction cs generalizing n with
  | nil =>
      cases n with
      | zero => exact .inl ⟨[], [], rfl, rfl⟩
      | succ n => exact .inr (.inr n.succ_pos)
  | cons c cs ih =>
      by_cases hzero : n = 0
      · exact .inl ⟨[], c :: cs, rfl, hzero.symm⟩
      by_cases hinside : n < c.utf8Size
      · refine .inr (.inl ⟨[], c, cs, rfl, ?_, ?_⟩)
        · show 0 < n
          omega
        · show n < 0 + c.utf8Size
          omega
      -- the position is behind the first character: look at it from there
      rcases ih (n - c.utf8Size) with
        ⟨front, back, htext, hn⟩ | ⟨front, d, back, htext, hlo, hhi⟩ | hbehind
      · refine .inl ⟨c :: front, back, by rw [htext, List.cons_append], ?_⟩
        rw [utf8Length]
        omega
      · refine .inr (.inl ⟨c :: front, d, back, by rw [htext, List.cons_append], ?_, ?_⟩)
        · rw [utf8Length]
          omega
        · rw [utf8Length]
          omega
      · refine .inr (.inr ?_)
        rw [utf8Length]
        omega

/-- **Where a position can lie**: between characters, inside one, or behind
the text. -/
theorem position_cases (n : Nat) (text : String) :
    String.Pos.Raw.IsValid text ⟨n⟩ ∨ InsideCharacter n text ∨ text.utf8ByteSize < n := by
  rw [isValid_iff_exists_split, ← utf8Length_toList]
  rcases position_cases_chars n text.toList with
    ⟨front, back, htext, hn⟩ | ⟨front, c, back, htext, hlo, hhi⟩ | hbehind
  · refine .inl ⟨.ofList front, .ofList back, ?_, ?_⟩
    · apply String.toList_inj.1
      rw [String.toList_append, String.toList_ofList, String.toList_ofList, htext]
    · rw [utf8ByteSize_ofList, hn]
  · refine .inr (.inl ⟨.ofList front, c, .ofList back, ?_, ?_, ?_⟩)
    · apply String.toList_inj.1
      simp only [String.toList_append, String.toList_ofList, String.toList_singleton, htext,
        List.append_assoc, List.singleton_append]
    · rw [utf8ByteSize_ofList]
      exact hlo
    · rw [utf8ByteSize_ofList]
      exact hhi
  · exact .inr (.inr hbehind)

/-- **Of two splits of one text, the shorter front begins the longer one.** -/
theorem exists_eq_append_of_le {front back front' back' : String}
    (h : front ++ back = front' ++ back') (hle : front.utf8ByteSize ≤ front'.utf8ByteSize) :
    ∃ middle, front' = front ++ middle ∧ back = middle ++ back' := by
  have hchars : front.toList ++ back.toList = front'.toList ++ back'.toList := by
    rw [← String.toList_append, ← String.toList_append, h]
  rw [← utf8Length_toList, ← utf8Length_toList] at hle
  rcases List.append_eq_append_iff.1 hchars with ⟨middle, hfront, hback⟩ | ⟨middle, hfront, hback⟩
  · refine ⟨.ofList middle, String.toList_inj.1 ?_, String.toList_inj.1 ?_⟩
    · rw [String.toList_append, String.toList_ofList, hfront]
    · rw [String.toList_append, String.toList_ofList, hback]
  · -- the other way round, there is nothing in between
    have hmiddle : middle = [] := by
      apply utf8Length_eq_zero
      rw [hfront, utf8Length_append] at hle
      omega
    subst hmiddle
    rw [List.append_nil] at hfront
    rw [List.nil_append] at hback
    refine ⟨"", String.toList_inj.1 ?_, String.toList_inj.1 ?_⟩
    · simp [hfront]
    · simp [hback]

/-- Two splits of one text with fronts of one length are the same. -/
theorem split_unique {front back front' back' : String} (h : front ++ back = front' ++ back')
    (hsize : front.utf8ByteSize = front'.utf8ByteSize) : front = front' ∧ back = back' := by
  obtain ⟨middle, hfront, hback⟩ := exists_eq_append_of_le h (Nat.le_of_eq hsize)
  have hmiddle : middle = "" := by
    rw [hfront, String.utf8ByteSize_append] at hsize
    exact String.utf8ByteSize_eq_zero_iff.1 (by omega)
  rw [hfront, hback, hmiddle, String.append_empty, String.empty_append]
  exact ⟨rfl, rfl⟩

/-- Between characters is not inside one. -/
theorem not_insideCharacter_of_isValid {n : Nat} {text : String}
    (h : String.Pos.Raw.IsValid text ⟨n⟩) : ¬ InsideCharacter n text := by
  obtain ⟨front, back, htext, hn⟩ := isValid_iff_exists_split.1 h
  rintro ⟨front', c, back', htext', hlo, hhi⟩
  have hsplits : front' ++ (String.singleton c ++ back') = front ++ back := by
    rw [← String.append_assoc, ← htext', htext]
  obtain ⟨middle, hfront, hback⟩ := exists_eq_append_of_le hsplits (by omega)
  have hn' : front'.utf8ByteSize + utf8Length middle.toList = n := by
    rw [utf8Length_toList, ← String.utf8ByteSize_append, ← hfront, hn]
  -- what lies between the two fronts begins with the whole character
  have hchars : c :: back'.toList = middle.toList ++ back.toList := by
    rw [← String.toList_append, ← hback, String.toList_append, String.toList_singleton]
    rfl
  cases hmiddle : middle.toList with
  | nil =>
      rw [hmiddle, utf8Length] at hn'
      omega
  | cons d rest =>
      rw [hmiddle, List.cons_append, List.cons.injEq] at hchars
      rw [hmiddle, utf8Length, ← hchars.1] at hn'
      omega

/-- A position is not between characters exactly if it is inside one, or behind
the text. -/
theorem not_isValid_iff (n : Nat) (text : String) :
    ¬ String.Pos.Raw.IsValid text ⟨n⟩ ↔ InsideCharacter n text ∨ text.utf8ByteSize < n := by
  constructor
  · exact (position_cases n text).resolve_left
  · rintro (hinside | hbehind) hvalid
    · exact not_insideCharacter_of_isValid hvalid hinside
    · exact absurd hvalid.le_utf8ByteSize (Nat.not_le.2 hbehind)

/-! ## §2. The text a range names. -/

namespace ByteRange

/-- **A text, cut by a range**: what lies before it, in it and behind it. -/
structure Cuts (r : ByteRange) (text before selected after : String) : Prop where
  text_eq : text = before ++ selected ++ after
  start_eq : before.utf8ByteSize = r.start
  stop_eq : before.utf8ByteSize + selected.utf8ByteSize = r.stop

/-- A range selects exactly what it cuts out. -/
theorem slice?_eq_some_iff_cuts (r : ByteRange) (text selected : String) :
    r.slice? text = some selected ↔ ∃ before after, r.Cuts text before selected after := by
  rw [slice?_eq_some_iff]
  constructor
  · rintro ⟨before, after, htext, hstart, hstop⟩
    exact ⟨before, after, htext, hstart, by rw [← String.utf8ByteSize_append, hstop]⟩
  · rintro ⟨before, after, htext, hstart, hstop⟩
    exact ⟨before, after, htext, hstart, by rw [String.utf8ByteSize_append, hstop]⟩

/-- A range cuts a text in one way only. -/
theorem Cuts.unique {r : ByteRange} {text before selected after before' selected' after' : String}
    (h : r.Cuts text before selected after) (h' : r.Cuts text before' selected' after') :
    before = before' ∧ selected = selected' ∧ after = after' := by
  have hsize : before.utf8ByteSize = before'.utf8ByteSize := h.start_eq.trans h'.start_eq.symm
  have hsize' : selected.utf8ByteSize = selected'.utf8ByteSize := by
    have hstop := h.stop_eq.trans h'.stop_eq.symm
    omega
  have hsplits : before ++ (selected ++ after) = before' ++ (selected' ++ after') := by
    rw [← String.append_assoc, ← String.append_assoc, ← h.text_eq, ← h'.text_eq]
  obtain ⟨hbefore, hrest⟩ := split_unique hsplits hsize
  exact ⟨hbefore, split_unique hrest hsize'⟩

/-- A range cuts a text exactly if it is not reversed and both its ends lie
between characters. -/
theorem isSome_slice?_iff (r : ByteRange) (text : String) :
    (r.slice? text).isSome = true
      ↔ r.start ≤ r.stop ∧ String.Pos.Raw.IsValid text ⟨r.start⟩
        ∧ String.Pos.Raw.IsValid text ⟨r.stop⟩ := by
  rw [Option.isSome_iff_exists, isValid_iff_exists_split, isValid_iff_exists_split]
  constructor
  · rintro ⟨selected, hselected⟩
    obtain ⟨before, after, htext, hstart, hstop⟩ := (slice?_eq_some_iff_cuts r text _).1 hselected
    refine ⟨by omega, ⟨before, selected ++ after, ?_, hstart⟩, before ++ selected, after, htext, ?_⟩
    · rw [htext, String.append_assoc]
    · rw [String.utf8ByteSize_append, hstop]
  · rintro ⟨hle, ⟨before, back, htext, hstart⟩, ⟨front, after, htext', hstop⟩⟩
    obtain ⟨selected, hfront, -⟩ := exists_eq_append_of_le (htext.symm.trans htext') (by omega)
    refine ⟨selected, (slice?_eq_some_iff_cuts r text _).2 ⟨before, after, ?_, hstart, ?_⟩⟩
    · rw [htext', hfront]
    · rw [← String.utf8ByteSize_append, ← hfront, hstop]

/-- **When a range selects nothing**: it is reversed, it ends behind the text,
or one of its ends lies inside a character. -/
theorem slice?_eq_none_iff (r : ByteRange) (text : String) :
    r.slice? text = none ↔ r.stop < r.start ∨ text.utf8ByteSize < r.stop
      ∨ InsideCharacter r.start text ∨ InsideCharacter r.stop text := by
  have hnone : r.slice? text = none ↔ ¬ (r.slice? text).isSome = true := by
    rw [Option.not_isSome_iff_eq_none]
  have hstart := not_isValid_iff r.start text
  have hstop := not_isValid_iff r.stop text
  rw [hnone, isSome_slice?_iff]
  constructor
  · intro h
    by_cases hreversed : r.stop < r.start
    · exact .inl hreversed
    by_cases hstart' : String.Pos.Raw.IsValid text ⟨r.start⟩
    · have hstop' : ¬ String.Pos.Raw.IsValid text ⟨r.stop⟩ := fun hstop' =>
        h ⟨Nat.not_lt.1 hreversed, hstart', hstop'⟩
      rcases hstop.1 hstop' with hinside | hbehind
      · exact .inr (.inr (.inr hinside))
      · exact .inr (.inl hbehind)
    · rcases hstart.1 hstart' with hinside | hbehind
      · exact .inr (.inr (.inl hinside))
      · exact .inr (.inl (by omega))
  · rintro (hreversed | hbehind | hinside | hinside) ⟨hle, hstart', hstop'⟩
    · omega
    · exact hstop.2 (.inr hbehind) hstop'
    · exact hstart.2 (.inl hinside) hstart'
    · exact hstop.2 (.inl hinside) hstop'

/-- **A range of a selection, seen from the whole text**: positions in what
`r` selects are positions of the text, moved by where `r` starts. -/
theorem slice?_slice? {r : ByteRange} {text selected : String}
    (h : r.slice? text = some selected) (x y : Nat) (hy : y ≤ selected.utf8ByteSize) :
    slice? ⟨x, y⟩ selected = slice? ⟨r.start + x, r.start + y⟩ text := by
  obtain ⟨before, after, htext, hstart, hstop⟩ := (slice?_eq_some_iff_cuts r text selected).1 h
  apply Option.ext
  intro part
  rw [slice?_eq_some_iff_cuts, slice?_eq_some_iff_cuts]
  constructor
  · rintro ⟨front, back, hselected, hx, hy'⟩
    refine ⟨before ++ front, back ++ after, ?_, ?_, ?_⟩
    · rw [htext, hselected]
      simp only [String.append_assoc]
    · rw [String.utf8ByteSize_append, hstart, hx]
    · rw [String.utf8ByteSize_append]
      show _ = r.start + y
      have hy'' : front.utf8ByteSize + part.utf8ByteSize = y := hy'
      omega
  · rintro ⟨front, back, htext', hx, hy'⟩
    have hx' : front.utf8ByteSize = r.start + x := hx
    have hy'' : front.utf8ByteSize + part.utf8ByteSize = r.start + y := hy'
    have hsplits : before ++ (selected ++ after) = front ++ (part ++ back) := by
      rw [← String.append_assoc, ← String.append_assoc, ← htext, ← htext']
    -- the part begins inside the selection, and ends there
    obtain ⟨inner, hfront, hrest⟩ := exists_eq_append_of_le hsplits (by omega)
    have hinner : before.utf8ByteSize + inner.utf8ByteSize = r.start + x := by
      rw [← String.utf8ByteSize_append, ← hfront, hx']
    have hrest' : (inner ++ part) ++ back = selected ++ after := by
      rw [hrest, String.append_assoc]
    obtain ⟨tail, hselected, -⟩ := exists_eq_append_of_le hrest' (by
      rw [String.utf8ByteSize_append]
      omega)
    refine ⟨inner, tail, hselected, ?_, ?_⟩
    · show inner.utf8ByteSize = x
      omega
    · show inner.utf8ByteSize + part.utf8ByteSize = y
      omega

end ByteRange

/-! ## §3. Making a fragment step by step. -/

namespace Fragment

/-- One step in making a fragment. -/
inductive BuildStep where
  /-- Set the range. -/
  | range (r : ByteRange)
  /-- Set reference and flags. -/
  | reference (reference : TextReference) (flags : ReferenceFlags)
  /-- Set the style. -/
  | style (style : TextStyle)

/-- The range that a step sets. -/
def BuildStep.range? : BuildStep → Option ByteRange
  | .range r => some r
  | .reference _ _ => none
  | .style _ => none

/-- The fragment after a step. -/
def after (f : Fragment) : BuildStep → Fragment
  | .range r => f.withRange r
  | .reference reference flags => f.withReference reference flags
  | .style style => f.withStyle style

/-- The fragment after several steps, in order. -/
def build (f : Fragment) (steps : List BuildStep) : Fragment := steps.foldl after f

/-- The last range that is set, if any is. -/
def lastRange? : List BuildStep → Option ByteRange
  | [] => none
  | step :: steps => (lastRange? steps).or step.range?

theorem range_after (f : Fragment) (step : BuildStep) :
    (f.after step).range = step.range?.or f.range := by
  cases step <;> rfl

theorem text_after (f : Fragment) (step : BuildStep) : (f.after step).text = f.text := by
  cases step <;> rfl

/-- No step alters the text. -/
theorem text_build (f : Fragment) (steps : List BuildStep) : (f.build steps).text = f.text := by
  induction steps generalizing f with
  | nil => rfl
  | cons step steps ih =>
      show ((f.after step).build steps).text = f.text
      rw [ih, text_after]

/-- **Of the ranges only the last one matters.** -/
theorem range_build (f : Fragment) (steps : List BuildStep) :
    (f.build steps).range = (lastRange? steps).or f.range := by
  induction steps generalizing f with
  | nil => rfl
  | cons step steps ih =>
      show ((f.after step).build steps).range = ((lastRange? steps).or step.range?).or f.range
      rw [ih, range_after, Option.or_assoc]

/-- The content depends on text and range only. -/
theorem content?_congr {f g : Fragment} (htext : f.text = g.text) (hrange : f.range = g.range) :
    f.content? = g.content? := by
  unfold content? selection
  rw [htext, hrange]

/-- **Fragments, made in any order of steps**: whatever else is set before and
after, the content is that of the last range. -/
theorem content?_build (text : String) (steps : List BuildStep) {r : ByteRange}
    (h : lastRange? steps = some r) :
    ((ofText text).build steps).content? = ((ofText text).withRange r).content? := by
  apply content?_congr
  · exact text_build _ steps
  · rw [range_build, h]
    rfl

/-! ## §4. The content of a fragment. -/

/-- **Which ranges select what.**  A range `a..b` of a text selects what lies
behind `a` bytes and goes up to byte `b`, and that is one thing only.  It
selects nothing if it is reversed, ends behind the text, or has an end inside a
character.  A range of what it selects is a range of the text, moved by `a`.
And in making a fragment, only the last range that is set matters. -/
theorem content?_sub_range (text : String) (a b : Nat) :
    (∀ selected : String, ((ofText text).withRange ⟨a, b⟩).content? = some selected ↔
      ∃ before after : String, ByteRange.Cuts ⟨a, b⟩ text before selected after)
    ∧ (∀ before selected after before' selected' after' : String,
        ByteRange.Cuts ⟨a, b⟩ text before selected after →
        ByteRange.Cuts ⟨a, b⟩ text before' selected' after' →
        before = before' ∧ selected = selected' ∧ after = after')
    ∧ (((ofText text).withRange ⟨a, b⟩).content? = none ↔
        b < a ∨ text.utf8ByteSize < b ∨ InsideCharacter a text ∨ InsideCharacter b text)
    ∧ (∀ selected : String, ((ofText text).withRange ⟨a, b⟩).content? = some selected →
        ∀ x y : Nat, y ≤ selected.utf8ByteSize →
          ((ofText selected).withRange ⟨x, y⟩).content?
            = ((ofText text).withRange ⟨a + x, a + y⟩).content?)
    ∧ (∀ steps : List BuildStep, lastRange? steps = some ⟨a, b⟩ →
        ((ofText text).build steps).content? = ((ofText text).withRange ⟨a, b⟩).content?) := by
  refine ⟨?_, ?_, ?_, ?_, ?_⟩
  · intro selected
    rw [content?_withRange]
    exact ByteRange.slice?_eq_some_iff_cuts ⟨a, b⟩ text selected
  · intro before selected after before' selected' after' h h'
    exact h.unique h'
  · rw [content?_withRange]
    exact ByteRange.slice?_eq_none_iff ⟨a, b⟩ text
  · intro selected h x y hy
    rw [content?_withRange] at h
    rw [content?_withRange, content?_withRange]
    exact ByteRange.slice?_slice? h x y hy
  · intro steps h
    exact content?_build text steps h

/-- A range that begins with a character of two bytes, a range of it, and a
fragment whose range is set twice. -/
theorem content?_sub_range_two_bytes :
    ((ofText "xäbc").withRange ⟨1, 4⟩).content? = some "äb"
    ∧ ((ofText "äb").withRange ⟨2, 3⟩).content? = ((ofText "xäbc").withRange ⟨3, 4⟩).content?
    ∧ ((ofText "xäbc").build [.style .keyword, .range ⟨0, 9⟩, .range ⟨1, 4⟩,
        .reference (.label 0x12) .empty]).content?
      = ((ofText "xäbc").withRange ⟨1, 4⟩).content?
    ∧ ∀ before selected after : String, ByteRange.Cuts ⟨1, 4⟩ "xäbc" before selected after →
        before = "x" ∧ selected = "äb" ∧ after = "c" := by
  obtain ⟨hsome, hunique, -, hpart, hbuild⟩ := content?_sub_range "xäbc" 1 4
  have hcuts : ByteRange.Cuts ⟨1, 4⟩ "xäbc" "x" "äb" "c" := ⟨by decide, by decide, by decide⟩
  have hselected := (hsome "äb").2 ⟨"x", "c", hcuts⟩
  refine ⟨hselected, hpart "äb" hselected 2 3 (by decide), hbuild _ rfl, ?_⟩
  intro before selected after h
  exact hunique before selected after "x" "äb" "c" h hcuts

example : ((ofText "xäbc").withRange ⟨2, 2⟩).content? = none := by decide

end Fragment

end MethodListing
