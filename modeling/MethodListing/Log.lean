/-
  MethodListing.Log — WHAT A SINK HAS TO REPORT.

  Writing never fails.  What cannot be taken as it was meant is left out, and
  an entry says so.  `Logged` pairs the state after an operation with the
  entries made on the way, oldest first.

  Main results:
    * `Logged.state_andThen`, `Logged.log_andThen` — the second step starts
      where the first one ended, and its entries follow.
-/
import MethodListing.Text.ByteRange
import MethodListing.Token

namespace MethodListing

/-! ## §1. Entries. -/

/-- How serious an entry is. -/
inductive Severity where
  /-- Something went wrong. -/
  | warning
  /-- Of interest when looking for a fault. -/
  | debug
  /-- Of interest when following every step. -/
  | trace
  deriving Repr, DecidableEq

/-- The label of a severity. -/
def Severity.label : Severity → String
  | .warning => "WARN"
  | .debug => "DEBUG"
  | .trace => "TRACE"

/-- One thing reported. -/
inductive LogEntry where
  /-- Indentation was decreased at level zero. -/
  | unbalancedDecrease (announced : Token)
  /-- A fragment's range is not valid for its text of `size` bytes. -/
  | invalidRange (range : ByteRange) (size : Nat)
  /-- A record was taken because its kickoff method is the announced one. -/
  | attachedToKickoff (method announced : Token)
  /-- A record belongs to another method. -/
  | droppedRecord (method announced : Token)
  /-- An attachment is of no use to the sink. -/
  | ignoredAttachment (id : String)
  deriving Repr, DecidableEq

namespace LogEntry

/-- How serious each entry is. -/
def severity : LogEntry → Severity
  | .unbalancedDecrease _ => .warning
  | .invalidRange _ _ => .warning
  | .attachedToKickoff _ _ => .trace
  | .droppedRecord _ _ => .debug
  | .ignoredAttachment _ => .trace

/-- The entry in words. -/
def message : LogEntry → String
  | .unbalancedDecrease announced =>
      "unbalanced indentation decrease while rendering " ++ announced.display
  | .invalidRange range size =>
      "skipping fragment with invalid range Some(" ++ range.display ++ ") of "
        ++ toString size ++ " bytes"
  | .attachedToKickoff method announced =>
      "debug info of " ++ method.display ++ " attached to kickoff method " ++ announced.display
  | .droppedRecord method announced =>
      "dropping debug info of " ++ method.display ++ " while rendering " ++ announced.display
  | .ignoredAttachment id => "ignoring custom data '" ++ id ++ "'"

/-- **Whether the entry reports a loss**: all do, except that a record was
matched through its kickoff method. -/
def isLoss : LogEntry → Bool
  | .attachedToKickoff _ _ => false
  | _ => true

end LogEntry

/-! ## §2. States with entries. -/

/-- A state, and what was reported while it was reached. -/
structure Logged (σ : Type) where
  /-- The state. -/
  state : σ
  /-- The entries, oldest first. -/
  log : List LogEntry

namespace Logged

variable {σ τ : Type}

/-- A state reached without anything to report. -/
def silent (state : σ) : Logged σ := ⟨state, []⟩

/-- A state reached with one thing to report. -/
def noting (state : σ) (entry : LogEntry) : Logged σ := ⟨state, [entry]⟩

/-- The same entries, with the state seen differently. -/
def map (f : σ → τ) (x : Logged σ) : Logged τ := ⟨f x.state, x.log⟩

/-- One step after another. -/
def andThen (x : Logged σ) (next : σ → Logged τ) : Logged τ :=
  ⟨(next x.state).state, x.log ++ (next x.state).log⟩

@[simp] theorem state_silent (state : σ) : (silent state).state = state := rfl

@[simp] theorem log_silent (state : σ) : (silent state).log = [] := rfl

@[simp] theorem state_noting (state : σ) (entry : LogEntry) :
    (noting state entry).state = state := rfl

@[simp] theorem log_noting (state : σ) (entry : LogEntry) :
    (noting state entry).log = [entry] := rfl

@[simp] theorem state_map (f : σ → τ) (x : Logged σ) : (x.map f).state = f x.state := rfl

@[simp] theorem log_map (f : σ → τ) (x : Logged σ) : (x.map f).log = x.log := rfl

@[simp] theorem state_andThen (x : Logged σ) (next : σ → Logged τ) :
    (x.andThen next).state = (next x.state).state := rfl

@[simp] theorem log_andThen (x : Logged σ) (next : σ → Logged τ) :
    (x.andThen next).log = x.log ++ (next x.state).log := rfl

end Logged

end MethodListing
