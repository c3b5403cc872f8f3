/-
  MethodListing.Listing.Basic — THE LISTING OF ONE METHOD.

  A listing is a page of text and the debug slots of the announced method.
  The two halves never touch: each request changes one of them, and only the
  log entry of an unbalanced decrease looks at both.
-/
import MethodListing.Listing.DebugSlots
import MethodListing.Listing.Page
import MethodListing.Sink

namespace MethodListing

/-- A listing under construction. -/
structure Listing where
  /-- The text. -/
  page : Page
  /-- The announced method and its records. -/
  debug : DebugSlots

namespace Listing

/-! ## §1. Life cycle. -/

/-- An empty listing. -/
def empty (options : LayoutOptions) : Listing := ⟨.blank options, .empty⟩

instance : Inhabited Listing := ⟨empty default⟩

/-- **Start over**: no text, no level, and no method announced. -/
def reset (s : Listing) : Listing where
  page := { s.page with text := "", level := 0, indentPending := true }
  debug := { s.debug with announced := .null, primary := none, kickoff := none }

/-- **Nothing but the options is kept**: what is left after starting over is an
empty listing. -/
theorem reset_eq_empty (s : Listing) : s.reset = empty s.page.options := rfl

/-- Announce the method that is listed. -/
def announce (token : Token) (s : Listing) : Listing := { s with debug := s.debug.announce token }

/-! ## §2. Requests. -/

/-- **Write a fragment.**  With an invalid range the line is begun all the
same, but nothing is written on it. -/
def write (fragment : Fragment) (s : Listing) : Logged Listing :=
  match fragment.selection with
  | .ok content => .silent { s with page := s.page.append content }
  | .error range =>
      .noting { s with page := s.page.beginLine }
        (.invalidRange range fragment.text.utf8ByteSize)

/-- End the line. -/
def writeLine (s : Listing) : Logged Listing := .silent { s with page := s.page.breakLine }

/-- Indent by one more level. -/
def increaseIndent (s : Listing) : Logged Listing := .silent { s with page := s.page.indent }

/-- Indent by one level less; at level zero nothing changes. -/
def decreaseIndent (s : Listing) : Logged Listing :=
  if s.page.level = 0 then .noting s (.unbalancedDecrease s.debug.announced)
  else .silent { s with page := s.page.outdent }

/-- **Attach data.**  Only debug records are of use here. -/
def attach (data : Attachment) (s : Listing) : Logged Listing :=
  match data with
  | .debugRecord r => (s.debug.accept r).map fun debug => { s with debug := debug }
  | other => .noting s (.ignoredAttachment other.id)

/-- A listing has a use for attachments. -/
def usesAttachments (_ : Listing) : Bool := true

instance : Sink Listing := ⟨write, writeLine, increaseIndent, decreaseIndent, attach,
  usesAttachments⟩

/-! ## §3. Looking at a listing. -/

/-- The text written so far. -/
def text (s : Listing) : String := s.page.text

/-- The number of bytes written. -/
def length (s : Listing) : Nat := s.page.length

/-- Where the next text will start. -/
def nextPosition (s : Listing) : Nat := s.page.nextPosition

/-- The indentation level. -/
def level (s : Listing) : Nat := s.page.level

/-- How lines are laid out. -/
def options (s : Listing) : LayoutOptions := s.page.options

/-- The announced method. -/
def announced (s : Listing) : Token := s.debug.announced

/-- The record to show, and the record of the state machine inside it. -/
def debugRecord? (s : Listing) : Option (DebugRecord × Option DebugRecord) := s.debug.lookup?

end Listing

end MethodListing
