/-
  MethodListing.Transcript — A SINK THAT ONLY REMEMBERS.

  A transcript keeps the calls that reach it, in order, and does nothing
  else.  It shows what a producer sent: the convenience writers arrive as the
  fragments they build.
-/
import MethodListing.Sink

namespace MethodListing

/-- A call that reached a sink. -/
inductive Call where
  /-- A fragment was written. -/
  | write (fragment : Fragment)
  /-- The line was ended. -/
  | writeLine
  /-- Indentation was increased. -/
  | increaseIndent
  /-- Indentation was decreased. -/
  | decreaseIndent
  /-- Data was attached. -/
  | attach (data : Attachment)

/-- The calls that reached a sink, oldest first. -/
structure Transcript where
  /-- The calls. -/
  calls : List Call

namespace Transcript

/-- Before any call. -/
def empty : Transcript := ⟨[]⟩

/-- After one more call. -/
def add (t : Transcript) (call : Call) : Transcript := ⟨t.calls ++ [call]⟩

instance : Sink Transcript where
  write fragment t := .silent (t.add (.write fragment))
  writeLine t := .silent (t.add .writeLine)
  increaseIndent t := .silent (t.add .increaseIndent)
  decreaseIndent t := .silent (t.add .decreaseIndent)
  attach data t := .silent (t.add (.attach data))
  usesAttachments _ := true

/-- What reaches a sink when the requests are sent one after the other. -/
def ofRequests (requests : List Request) : Transcript :=
  requests.foldl (fun t request => (request.send t).state) empty

end Transcript

end MethodListing
