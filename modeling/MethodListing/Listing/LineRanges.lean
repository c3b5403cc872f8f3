/-
  MethodListing.Listing.LineRanges — WHERE THE LINES OF A RUN LIE.

  What is written may hold line ends of its own, so the lines that a run has
  ended cannot be found by looking at its text.  They are found by watching
  the run: a line begins behind the end of the line before it, and goes to
  where it is ended itself.  The last line is not ended, and goes to the end
  of the text.
-/
import MethodListing.Listing.Operation

namespace MethodListing.Listing

/-- Where the lines of a run lie in its text, if the current one begins at
`start`. -/
def lineRangesFrom : Nat → List Operation → Listing → List ByteRange
  | start, [], s => [⟨start, s.length⟩]
  | start, op :: ops, s =>
      if op.isLineBreak then
        ⟨start, s.length⟩ :: lineRangesFrom (apply op s).state.length ops (apply op s).state
      else lineRangesFrom start ops (apply op s).state

/-- **The lines of a run**, cut out of its text; `none` for a cut that is not
between characters. -/
def cutLines (ops : List Operation) (s : Listing) : List (Option String) :=
  (lineRangesFrom s.length ops s).map (·.slice? (run ops s).state.text)

end MethodListing.Listing
