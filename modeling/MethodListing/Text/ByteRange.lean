/-
  MethodListing.Text.ByteRange — CUTTING TEXT BY UTF-8 BYTES.

  Positions in a listing are byte counts, so a range names bytes, while text
  is made of characters of one to four bytes.  `splitAt?` walks over whole
  characters and succeeds only at a character boundary; a range is valid if
  both its ends are boundaries and they come in order.

  Main results:
    * `utf8Length_toList`    — the length used here is the byte length of a
      string;
    * `splitAt?_eq_some_iff` — a split at `n` is a split into two pieces, the
      first of exactly `n` bytes;
    * `slice?_eq_some_iff`   — a range `a..b` selects `c` exactly if the text
      is `p ++ c ++ q` with `a` bytes in `p` and `b` bytes in `p ++ c`.
-/

namespace MethodListing

/-! ## §1. Byte length and splitting. -/

/-- The number of UTF-8 bytes of a sequence of characters. -/
def utf8Length : List Char → Nat
  | [] => 0
  | c :: cs => c.utf8Size + utf8Length cs

@[simp] theorem utf8Length_append (xs ys : List Char) :
    utf8Length (xs ++ ys) = utf8Length xs + utf8Length ys := by
  induction xs with
  | nil => simp [utf8Length]
  | cons c xs ih => simp [utf8Length, ih, Nat.add_assoc]

theorem utf8ByteSize_ofList (cs : List Char) :
    (String.ofList cs).utf8ByteSize = utf8Length cs := by
  induction cs with
  | nil => rfl
  | cons c cs ih =>
    rw [String.ofList_cons, String.utf8ByteSize_append, ih]
    simp [utf8Length]

/-- The byte length of a text is that of its characters. -/
theorem utf8Length_toList (text : String) : utf8Length text.toList = text.utf8ByteSize := by
  rw [← utf8ByteSize_ofList, String.ofList_toList]

theorem utf8Length_eq_zero {cs : List Char} (h : utf8Length cs = 0) : cs = [] := by
  cases cs with
  | nil => rfl
  | cons c cs =>
    have := c.utf8Size_pos
    simp only [utf8Length] at h
    omega

/-- A position is valid exactly if it lies behind the first of two pieces that
make up the text. -/
theorem isValid_iff_exists_split {text : String} {n : Nat} :
    String.Pos.Raw.IsValid text ⟨n⟩
      ↔ ∃ front back, text = front ++ back ∧ front.utf8ByteSize = n := by
  rw [String.Pos.Raw.isValid_iff_exists_append]
  constructor
  · rintro ⟨front, back, htext, hn⟩
    exact ⟨front, back, htext, (congrArg String.Pos.Raw.byteIdx hn).symm⟩
  · rintro ⟨front, back, htext, rfl⟩
    exact ⟨front, back, htext, rfl⟩

/-- Cut behind the first `n` bytes; `none` if the text is shorter or a
character lies across that position. -/
def splitAt? : Nat → List Char → Option (List Char × List Char)
  | 0, cs => some ([], cs)
  | _ + 1, [] => none
  | n + 1, c :: cs =>
      if c.utf8Size ≤ n + 1 then
        (splitAt? (n + 1 - c.utf8Size) cs).map fun (front, back) => (c :: front, back)
      else none

/-- **A split at `n`** is a split whose front has `n` bytes. -/
theorem splitAt?_eq_some_iff (n : Nat) (cs front back : List Char) :
    splitAt? n cs = some (front, back) ↔ cs = front ++ back ∧ utf8Length front = n := by
  fun_induction splitAt? n cs generalizing front with
  | case1 cs =>
    rw [Option.some.injEq, Prod.mk.injEq]
    constructor
    · rintro ⟨rfl, rfl⟩
      exact ⟨rfl, rfl⟩
    · rintro ⟨htext, hfront⟩
      rw [htext, utf8Length_eq_zero hfront]
      exact ⟨rfl, rfl⟩
  | case2 n =>
    refine iff_of_false nofun ?_
    rintro ⟨htext, hfront⟩
    rw [(List.append_eq_nil_iff.1 htext.symm).1] at hfront
    exact absurd hfront nofun
  | case3 n c cs hfits ih =>
    simp only [Option.map_eq_some_iff, Prod.mk.injEq, Prod.exists]
    constructor
    · rintro ⟨front, _, hrest, rfl, rfl⟩
      obtain ⟨rfl, hfront⟩ := (ih front).1 hrest
      refine ⟨rfl, ?_⟩
      rw [utf8Length, hfront]
      omega
    · rintro ⟨htext, hfront⟩
      cases front with
      | nil => exact absurd hfront nofun
      | cons d front =>
        obtain ⟨rfl, hrest⟩ := List.cons.inj htext
        rw [utf8Length] at hfront
        exact ⟨front, back, (ih front).2 ⟨hrest, by omega⟩, rfl, rfl⟩
  | case4 n c cs hcut =>
    -- a front that is not empty begins with `c`, which is too long for it
    refine iff_of_false nofun ?_
    rintro ⟨htext, hfront⟩
    cases front with
    | nil => exact absurd hfront nofun
    | cons d front =>
      obtain ⟨rfl, -⟩ := List.cons.inj htext
      rw [utf8Length] at hfront
      omega

/-! ## §2. Ranges. -/

/-- A range of byte positions, `stop` excluded.  Nothing is required of the
two: a range may be reversed or reach beyond any text. -/
structure ByteRange where
  /-- First byte selected. -/
  start : Nat
  /-- First byte no longer selected. -/
  stop : Nat
  deriving Repr, DecidableEq

namespace ByteRange

/-- The range as it is shown, `start..stop`. -/
def display (r : ByteRange) : String := toString r.start ++ ".." ++ toString r.stop

/-- The characters a range selects. -/
def sliceChars? (r : ByteRange) (cs : List Char) : Option (List Char) :=
  if r.start ≤ r.stop then
    (splitAt? r.start cs).bind fun (_, rest) =>
      (splitAt? (r.stop - r.start) rest).map fun (selected, _) => selected
  else none

/-- **The part of a text that a range selects**; `none` if the range is
reversed, reaches beyond the text, or has an end inside a character. -/
def slice? (r : ByteRange) (text : String) : Option String :=
  (r.sliceChars? text.toList).map String.ofList

theorem sliceChars?_eq_some_iff (r : ByteRange) (cs selected : List Char) :
    r.sliceChars? cs = some selected ↔
      ∃ before after, cs = before ++ selected ++ after ∧
        utf8Length before = r.start ∧ utf8Length (before ++ selected) = r.stop := by
  unfold sliceChars?
  split
  · rename_i hle
    simp only [Option.bind_eq_some_iff, Option.map_eq_some_iff, Prod.exists,
      splitAt?_eq_some_iff]
    constructor
    · rintro ⟨before, rest, ⟨rfl, hb⟩, _, after, ⟨rfl, hs⟩, rfl⟩
      exact ⟨before, after, by simp, hb, by simp [hb, hs]; omega⟩
    · rintro ⟨before, after, rfl, hb, hs⟩
      refine ⟨before, selected ++ after, ⟨by simp, hb⟩, selected, after, ⟨rfl, ?_⟩, rfl⟩
      simp only [utf8Length_append] at hs
      omega
  · rename_i hgt
    simp only [reduceCtorEq, false_iff, not_exists, not_and]
    rintro before after rfl hb hs
    simp only [utf8Length_append] at hs
    omega

/-- **A range selects `selected`** exactly if the text is `before ++ selected
++ after` with `start` bytes before and `stop` bytes up to its end. -/
theorem slice?_eq_some_iff (r : ByteRange) (text selected : String) :
    r.slice? text = some selected ↔
      ∃ before after, text = before ++ selected ++ after ∧
        before.utf8ByteSize = r.start ∧ (before ++ selected).utf8ByteSize = r.stop := by
  have hchars : r.slice? text = some selected ↔
      r.sliceChars? text.toList = some selected.toList := by
    unfold slice?
    rw [Option.map_eq_some_iff]
    constructor
    · intro h
      obtain ⟨cs, hcs, hsel⟩ := h
      rw [hcs, ← hsel, String.toList_ofList]
    · intro h
      exact ⟨selected.toList, h, String.ofList_toList⟩
  rw [hchars, sliceChars?_eq_some_iff]
  constructor
  · intro h
    obtain ⟨before, after, htext, hstart, hstop⟩ := h
    refine ⟨String.ofList before, String.ofList after, ?_, ?_, ?_⟩
    · apply String.toList_inj.1
      simp only [String.toList_append, String.toList_ofList, htext]
    · rw [utf8ByteSize_ofList, hstart]
    · rw [← utf8Length_toList, String.toList_append, String.toList_ofList, hstop]
  · intro h
    obtain ⟨before, after, htext, hstart, hstop⟩ := h
    refine ⟨before.toList, after.toList, ?_, ?_, ?_⟩
    · rw [htext, String.toList_append, String.toList_append]
    · rw [utf8Length_toList, hstart]
    · rw [← String.toList_append, utf8Length_toList, hstop]

end ByteRange

end MethodListing
