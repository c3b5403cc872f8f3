/-
  MethodListing.Sink — THE INTERFACE PRODUCERS WRITE THROUGH.

  A producer sends a stream of requests: fragments, line breaks, changes of
  indentation, and attachments.  A sink answers six of them itself.  Writing
  a text in a style, and writing a text that refers to something, are the
  same for every sink: they build a fragment and write it.
-/
import MethodListing.Attachment
import MethodListing.Fragment.Basic
import MethodListing.Log

namespace MethodListing

/-- What a sink has to provide. -/
class Sink (σ : Type) where
  /-- Append a fragment. -/
  write : Fragment → σ → Logged σ
  /-- End the line. -/
  writeLine : σ → Logged σ
  /-- Indent what follows by one more level. -/
  increaseIndent : σ → Logged σ
  /-- Indent what follows by one level less. -/
  decreaseIndent : σ → Logged σ
  /-- Take data beside the text. -/
  attach : Attachment → σ → Logged σ
  /-- Whether the sink has a use for attachments at all; a producer may save
  itself the work of making them. -/
  usesAttachments : σ → Bool

namespace Sink

variable {σ : Type} [Sink σ]

/-- **Write a text in a style.** -/
def writeText (text : String) (style : TextStyle) : σ → Logged σ :=
  write ((Fragment.ofText text).withStyle style)

/-- **Write a text that refers to something.** -/
def writeReference (text : String) (reference : TextReference) (flags : ReferenceFlags)
    (style : TextStyle) : σ → Logged σ :=
  write (((Fragment.ofText text).withReference reference flags).withStyle style)

end Sink

/-- One call that a producer makes. -/
inductive Request where
  | write (fragment : Fragment)
  | writeText (text : String) (style : TextStyle)
  | writeReference (text : String) (reference : TextReference) (flags : ReferenceFlags)
      (style : TextStyle)
  | writeLine
  | increaseIndent
  | decreaseIndent
  | attach (data : Attachment)

/-- **Send a request** to a sink. -/
def Request.send {σ : Type} [Sink σ] : Request → σ → Logged σ
  | .write fragment => Sink.write fragment
  | .writeText text style => Sink.writeText text style
  | .writeReference text reference flags style => Sink.writeReference text reference flags style
  | .writeLine => Sink.writeLine
  | .increaseIndent => Sink.increaseIndent
  | .decreaseIndent => Sink.decreaseIndent
  | .attach data => Sink.attach data

end MethodListing
