/-
  MethodListing.Listing.Operation — RUNS.

  A listing changes by the requests of a producer and by two operations of
  its owner: announcing a method, and starting over.  A run is a sequence of
  operations; it ends in a state and has made log entries on the way.

  Main results:
    * `Operation.byForm` — an operation is a write or one of six others;
    * `run_append`       — a run can be cut anywhere, and its entries with it.
-/
import MethodListing.Listing.Basic

namespace MethodListing

/-- One operation on a listing. -/
inductive Operation where
  /-- A request of the producer. -/
  | request (request : Request)
  /-- Announce a method. -/
  | announce (token : Token)
  /-- Start over. -/
  | reset

namespace Operation

/-! ## §1. What an operation is about. -/

/-- The text that an operation writes: the content of a fragment, or nothing
for a fragment with an invalid range; `none` if the operation does not write. -/
def written? : Operation → Option String
  | .request (.write fragment) => some (fragment.content?.getD "")
  | .request (.writeText text _) => some text
  | .request (.writeReference text _ _ _) => some text
  | _ => none

/-- The fragment that an operation writes, if it writes one. -/
def fragment? : Operation → Option Fragment
  | .request (.write fragment) => some fragment
  | .request (.writeText text style) => some ((Fragment.ofText text).withStyle style)
  | .request (.writeReference text reference flags style) =>
      some (((Fragment.ofText text).withReference reference flags).withStyle style)
  | _ => none

/-- **An operation by its form**: a write, in any of three forms, or one of six
others. -/
@[elab_as_elim]
theorem byForm {motive : Operation → Prop}
    (write : ∀ op fragment, fragment? op = some fragment → motive op)
    (writeLine : motive (.request .writeLine))
    (increaseIndent : motive (.request .increaseIndent))
    (decreaseIndent : motive (.request .decreaseIndent))
    (attach : ∀ data, motive (.request (.attach data)))
    (announce : ∀ token, motive (.announce token))
    (reset : motive .reset) (op : Operation) : motive op := by
  cases op with
  | announce token => exact announce token
  | reset => exact reset
  | request request =>
      cases request with
      | writeLine => exact writeLine
      | increaseIndent => exact increaseIndent
      | decreaseIndent => exact decreaseIndent
      | attach data => exact attach data
      | _ => exact write _ _ rfl

/-- Whether the operation ends a line. -/
def isLineBreak : Operation → Bool
  | .request .writeLine => true
  | _ => false

/-- Whether the operation starts over. -/
def isReset : Operation → Bool
  | .reset => true
  | _ => false

/-- Whether the operation concerns the announced method: it announces one, or
attaches data. -/
def concernsMethod : Operation → Bool
  | .announce _ => true
  | .request (.attach _) => true
  | _ => false

/-- Whether the operation concerns the text: it neither concerns the announced
method nor starts over. -/
def concernsText (op : Operation) : Bool := !op.concernsMethod && !op.isReset

/-- By how much the operation asks to change the indentation level. -/
def indentChange : Operation → Int
  | .request .increaseIndent => 1
  | .request .decreaseIndent => -1
  | _ => 0

/-- The indentation level after the operation; it does not fall below zero. -/
def relevel (op : Operation) (level : Nat) : Nat := (level + op.indentChange).toNat

end Operation

namespace Listing

/-! ## §2. Running. -/

/-- **One operation.** -/
def apply : Operation → Listing → Logged Listing
  | .request request, s => request.send s
  | .announce token, s => .silent (s.announce token)
  | .reset, s => .silent s.reset

/-- **A run**: one operation after the other. -/
def run : List Operation → Listing → Logged Listing
  | [], s => .silent s
  | op :: ops, s => (apply op s).andThen (run ops)

/-! ## §3. Laws of runs. -/

@[simp] theorem run_nil (s : Listing) : run [] s = .silent s := rfl

theorem state_run_cons (op : Operation) (ops : List Operation) (s : Listing) :
    (run (op :: ops) s).state = (run ops (apply op s).state).state := rfl

theorem log_run_cons (op : Operation) (ops : List Operation) (s : Listing) :
    (run (op :: ops) s).log = (apply op s).log ++ (run ops (apply op s).state).log := rfl

theorem run_singleton (op : Operation) (s : Listing) : run [op] s = apply op s := by
  show Logged.mk _ ((apply op s).log ++ []) = _
  rw [List.append_nil]
  rfl

theorem run_append (ops more : List Operation) (s : Listing) :
    run (ops ++ more) s = (run ops s).andThen (run more) := by
  induction ops generalizing s with
  | nil => simp [Logged.andThen]
  | cons op ops ih => simp [run, Logged.andThen, ih, List.append_assoc]

end Listing

end MethodListing
