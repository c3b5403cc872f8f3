/-
  MethodListing.Listing.Observation — WHAT IS SEEN OF A LISTING.

  A listing answers seven questions.  Of what it keeps to answer them, some
  cannot be asked for: whether the indentation is pending, and what each of
  the two debug slots holds.  The trace of a run is what its owner sees: after
  every operation the seven answers, and the entries that were made.

  Main results:
    * `trace_append` — the trace of a run can be cut anywhere.
-/
import MethodListing.Listing.Operation

namespace MethodListing

/-- The answers of a listing: its text and that text's length in bytes, where
the next text will start, the level, the announced method, the records to
show, and the options. -/
structure Observation where
  text : String
  length : Nat
  nextPosition : Nat
  level : Nat
  announced : Token
  debugRecord? : Option (DebugRecord × Option DebugRecord)
  options : LayoutOptions

namespace Listing

/-- What a listing answers. -/
def observe (s : Listing) : Observation :=
  ⟨s.text, s.length, s.nextPosition, s.level, s.announced, s.debugRecord?, s.options⟩

/-- **The trace of a run**: what each operation leaves to be seen, and the
entries it makes. -/
def trace : List Operation → Listing → List (Logged Observation)
  | [], _ => []
  | op :: ops, s => (apply op s).map observe :: trace ops (apply op s).state

@[simp] theorem length_trace (ops : List Operation) (s : Listing) :
    (trace ops s).length = ops.length := by
  induction ops generalizing s with
  | nil => rfl
  | cons op ops ih => rw [trace, List.length_cons, ih, List.length_cons]

theorem trace_append (ops more : List Operation) (s : Listing) :
    trace (ops ++ more) s = trace ops s ++ trace more (run ops s).state := by
  induction ops generalizing s with
  | nil => rfl
  | cons op ops ih => rw [List.cons_append, trace, trace, ih, state_run_cons, List.cons_append]

end Listing

end MethodListing
