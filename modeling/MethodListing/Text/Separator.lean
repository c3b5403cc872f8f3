/-
  MethodListing.Text.Separator — CUTTING TEXT AT A SEPARATOR.

  A separator is looked for from left to right, and what has been found once
  is not searched again.  So `\r\r\n` holds the separator `\r\n` once, behind
  one carriage return.

  A text that was put together from pieces falls apart into the same pieces if
  none of them holds the LAST character of the separator, and neither does
  the rest of the separator: a find that begins inside a piece would have to
  end there as well.

  Main results:
    * `cutAt_intercalate`       — pieces put together and cut apart again;
    * `replaceChar_intercalate` — another separator between the same pieces.
-/

namespace MethodListing

/-! ## §1. Cutting and replacing. -/

/-- The pieces between the finds of a separator, which must not be empty.
The next `skip` characters belong to a find already made. -/
def piecesFrom (separator : List Char) : Nat → List Char → List (List Char)
  | _, [] => [[]]
  | skip + 1, _ :: cs => piecesFrom separator skip cs
  | 0, c :: cs =>
      if separator.isPrefixOf (c :: cs) then [] :: piecesFrom separator (separator.length - 1) cs
      else (piecesFrom separator 0 cs).modifyHead (c :: ·)

/-- **The pieces of a text** between the finds of a separator; there is always
one more of them than there are finds. -/
def cutAt (separator text : String) : List String :=
  (piecesFrom separator.toList 0 text.toList).map String.ofList

/-- A text in the place of every occurrence of a character. -/
def replaceChar (char : Char) (replacement text : String) : String :=
  String.ofList (text.toList.flatMap fun c => if c = char then replacement.toList else [c])

/-! ## §2. Finds. -/

theorem piecesFrom_append (separator found rest : List Char) :
    piecesFrom separator found.length (found ++ rest) = piecesFrom separator 0 rest := by
  induction found with
  | nil => rfl
  | cons c found ih => exact ih

/-- A find ends a piece. -/
theorem piecesFrom_separator_append {separator : List Char} (hne : separator ≠ [])
    (rest : List Char) :
    piecesFrom separator 0 (separator ++ rest) = [] :: piecesFrom separator 0 rest := by
  obtain ⟨c, found, hseparator⟩ := List.exists_cons_of_ne_nil hne
  have hbegins : separator.isPrefixOf (separator ++ rest) = true :=
    List.isPrefixOf_iff_prefix.2 (List.prefix_append _ _)
  have hlength : separator.length - 1 = found.length := by
    rw [hseparator]
    rfl
  have hcons : separator ++ rest = c :: (found ++ rest) := by
    rw [hseparator]
    rfl
  rw [hcons] at hbegins ⊢
  rw [piecesFrom, if_pos hbegins, hlength, piecesFrom_append]

section Pieces

variable {front : List Char} {last : Char}

/-- No separator begins in front of enough characters that are not its last
one. -/
theorem isPrefixOf_eq_false {cs : List Char} (hlast : last ∉ cs)
    (hlength : front.length < cs.length) (rest : List Char) :
    (front ++ [last]).isPrefixOf (cs ++ rest) = false := by
  rw [Bool.eq_false_iff]
  intro h
  -- `cs` is long enough to hold all of the separator, its last character too
  have hbegins : front ++ [last] <+: cs :=
    List.prefix_of_prefix_length_le (List.isPrefixOf_iff_prefix.1 h) (List.prefix_append _ _)
      (by
        rw [List.length_append, List.length_singleton]
        omega)
  exact hlast (hbegins.subset (List.mem_append_right _ List.mem_cons_self))

/-- A piece is found whole when a separator follows it. -/
theorem piecesFrom_piece_append (hfront : last ∉ front) {piece : List Char}
    (hpiece : last ∉ piece) (rest : List Char) :
    piecesFrom (front ++ [last]) 0 (piece ++ (front ++ [last]) ++ rest)
      = piece :: piecesFrom (front ++ [last]) 0 rest := by
  induction piece with
  | nil => exact piecesFrom_separator_append (by simp) rest
  | cons c piece ih =>
      have hmem : last ∉ (c :: piece) ++ front := by
        intro h
        rcases List.mem_append.1 h with h | h
        · exact hpiece h
        · exact hfront h
      have hlength : front.length < ((c :: piece) ++ front).length := by
        rw [List.length_append, List.length_cons]
        omega
      -- a find here would end within the piece or the front of the next find
      have hnone := isPrefixOf_eq_false hmem hlength (last :: rest)
      have happend : (c :: piece) ++ front ++ last :: rest
          = c :: (piece ++ (front ++ [last]) ++ rest) := by simp
      rw [happend] at hnone
      show piecesFrom _ 0 (c :: (piece ++ (front ++ [last]) ++ rest)) = _
      rw [piecesFrom, hnone, ih fun h => hpiece (List.mem_cons_of_mem c h)]
      rfl

/-- And so is the last piece. -/
theorem piecesFrom_piece {piece : List Char} (hpiece : last ∉ piece) :
    piecesFrom (front ++ [last]) 0 piece = [piece] := by
  induction piece with
  | nil => rfl
  | cons c piece ih =>
      -- nothing follows, so length does not matter: a find would end in the piece
      have hnone : (front ++ [last]).isPrefixOf (c :: piece) = false := by
        rw [Bool.eq_false_iff]
        intro h
        have hbegins := List.isPrefixOf_iff_prefix.1 h
        exact hpiece (hbegins.subset (List.mem_append_right _ List.mem_cons_self))
      rw [piecesFrom, hnone, ih fun h => hpiece (List.mem_cons_of_mem c h)]
      rfl

theorem piecesFrom_intercalate (hfront : last ∉ front) {pieces : List (List Char)}
    (hne : pieces ≠ []) (h : ∀ piece ∈ pieces, last ∉ piece) :
    piecesFrom (front ++ [last]) 0 ((front ++ [last]).intercalate pieces) = pieces := by
  induction pieces with
  | nil => exact absurd rfl hne
  | cons piece pieces ih =>
      have hpiece := h piece List.mem_cons_self
      cases pieces with
      | nil =>
          rw [List.intercalate_singleton]
          exact piecesFrom_piece hpiece
      | cons next pieces =>
          rw [List.intercalate_cons_cons, piecesFrom_piece_append hfront hpiece,
            ih (List.cons_ne_nil _ _) fun p hp => h p (List.mem_cons_of_mem piece hp)]

end Pieces

/-! ## §3. Texts put together from pieces. -/

/-- **Pieces put together and cut apart again** are the same pieces. -/
theorem cutAt_intercalate {separator : String} {front : List Char} {last : Char}
    (hseparator : separator.toList = front ++ [last]) (hfront : last ∉ front)
    {pieces : List String} (hne : pieces ≠ []) (h : ∀ piece ∈ pieces, last ∉ piece.toList) :
    cutAt separator (separator.intercalate pieces) = pieces := by
  have hchars : ∀ cs ∈ pieces.map String.toList, last ∉ cs := by
    intro cs hcs
    obtain ⟨piece, hpiece, rfl⟩ := List.mem_map.1 hcs
    exact h piece hpiece
  unfold cutAt
  rw [String.toList_intercalate, hseparator,
    piecesFrom_intercalate hfront (by simpa using hne) hchars, List.map_map]
  have hround : String.ofList ∘ String.toList = id := funext fun _ => String.ofList_toList
  rw [hround, List.map_id]

/-- A find may follow a character that the separator begins with. -/
example : cutAt "\r\n" "a\r\r\n\r\nb\n" = ["a\r", "", "b\n"] := by decide

section Replace

variable {char : Char} {replacement : String}

theorem replaceChar_append (a b : String) :
    replaceChar char replacement (a ++ b)
      = replaceChar char replacement a ++ replaceChar char replacement b := by
  unfold replaceChar
  rw [String.toList_append, List.flatMap_append, String.ofList_append]

theorem replaceChar_of_not_mem {text : String} (h : char ∉ text.toList) :
    replaceChar char replacement text = text := by
  have hsame : ∀ cs : List Char, char ∉ cs →
      cs.flatMap (fun c => if c = char then replacement.toList else [c]) = cs := by
    intro cs hcs
    induction cs with
    | nil => rfl
    | cons c cs ih =>
        have hc : ¬ c = char := fun hchar => hcs (hchar ▸ List.mem_cons_self)
        rw [List.flatMap_cons, if_neg hc, ih fun hmem => hcs (List.mem_cons_of_mem c hmem)]
        rfl
  unfold replaceChar
  rw [hsame _ h, String.ofList_toList]

theorem replaceChar_singleton :
    replaceChar char replacement (String.singleton char) = replacement := by
  simp [replaceChar]

/-- **To replace the character that separates pieces** is to put another
separator between them. -/
theorem replaceChar_intercalate {pieces : List String} (h : ∀ piece ∈ pieces, char ∉ piece.toList) :
    replaceChar char replacement ((String.singleton char).intercalate pieces)
      = replacement.intercalate pieces := by
  induction pieces with
  | nil => rfl
  | cons piece pieces ih =>
      have hpiece : replaceChar char replacement piece = piece :=
        replaceChar_of_not_mem (h piece List.mem_cons_self)
      cases pieces with
      | nil => rw [String.intercalate_singleton, String.intercalate_singleton, hpiece]
      | cons next pieces =>
          rw [String.intercalate_cons_cons, String.intercalate_cons_cons, replaceChar_append,
            replaceChar_append, hpiece, replaceChar_singleton,
            ih fun p hp => h p (List.mem_cons_of_mem piece hp)]

end Replace

end MethodListing
