/-
  MethodListing.Fragment.Basic — PIECES OF TEXT.

  A fragment is the unit a producer writes: a text, possibly a range of it,
  and annotations.  What a fragment adds to a listing is its SELECTION; the
  annotations do not alter it.

  Main results:
    * `content?_withReference`, `content?_withStyle` — annotations leave the
      content alone.
-/
import MethodListing.Fragment.Annotation
import MethodListing.Text.ByteRange

namespace MethodListing

/-- A piece of text with its annotations. -/
structure Fragment where
  /-- The text. -/
  text : String
  /-- The part of the text that is meant; `none` for all of it. -/
  range : Option ByteRange
  /-- What it refers to. -/
  reference : Option TextReference
  /-- How it relates to that. -/
  flags : ReferenceFlags
  /-- What kind of text it is. -/
  style : TextStyle
  deriving Repr, DecidableEq

namespace Fragment

/-! ## §1. Making fragments. -/

/-- All of a text, without annotations. -/
def ofText (text : String) : Fragment := ⟨text, none, none, .empty, .text⟩

/-- The same text, but only a range of it. -/
def withRange (f : Fragment) (range : ByteRange) : Fragment := { f with range := some range }

/-- The same text, referring to something.  Reference and flags go together:
both replace what was there. -/
def withReference (f : Fragment) (reference : TextReference) (flags : ReferenceFlags) :
    Fragment := { f with reference := some reference, flags := flags }

/-- The same text in a style. -/
def withStyle (f : Fragment) (style : TextStyle) : Fragment := { f with style := style }

/-! ## §2. What a fragment adds. -/

/-- The part of the text that is meant; if the range is not valid for the
text, that range instead. -/
def selection (f : Fragment) : Except ByteRange String :=
  match f.range with
  | none => .ok f.text
  | some range =>
    match range.slice? f.text with
    | some selected => .ok selected
    | none => .error range

/-- **The content of a fragment**: what it selects, if its range is valid. -/
def content? (f : Fragment) : Option String := f.selection.toOption

@[simp] theorem content?_ofText (text : String) : (ofText text).content? = some text := rfl

@[simp] theorem content?_withReference (f : Fragment) (reference : TextReference)
    (flags : ReferenceFlags) : (f.withReference reference flags).content? = f.content? := rfl

@[simp] theorem content?_withStyle (f : Fragment) (style : TextStyle) :
    (f.withStyle style).content? = f.content? := rfl

@[simp] theorem content?_withRange (f : Fragment) (range : ByteRange) :
    (f.withRange range).content? = range.slice? f.text := by
  simp only [content?, selection, withRange]
  cases range.slice? f.text <;> rfl

end Fragment

end MethodListing
