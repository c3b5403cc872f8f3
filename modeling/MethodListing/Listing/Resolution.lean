/-
  MethodListing.Listing.Resolution — WHICH RECORD IS SHOWN, FROM HISTORY.

  The debug slots keep two records; history keeps all of them.  Here a run is
  read as the list of the records attached since it last started over, each
  with the method that was announced at that moment.  What is shown follows
  from the last record that counted, and the last one that counted through
  its kickoff method.

  Main results:
    * `historyFrom_append` — the history of a run can be taken piece by piece.
-/
import MethodListing.Listing.Operation

namespace MethodListing.Resolution

/-! ## §1. History. -/

/-- A record, and the method that was announced when it was attached. -/
structure Attached where
  /-- The announced method. -/
  announced : Token
  /-- The record. -/
  record : DebugRecord

/-- The announced method and the records attached since the last new start. -/
structure History where
  /-- The announced method. -/
  announced : Token
  /-- The attached records, oldest first. -/
  attached : List Attached

namespace History

/-- Before any operation, and after a new start. -/
def empty : History := ⟨.null, []⟩

/-- The history after one more operation. -/
def extend (h : History) : Operation → History
  | .reset => empty
  | .announce token => { h with announced := token }
  | .request (.attach (.debugRecord r)) =>
      { h with attached := h.attached ++ [⟨h.announced, r⟩] }
  | .request _ => h

end History

/-- **The history of a run** that begins with a given one. -/
def historyFrom (h : History) (ops : List Operation) : History := ops.foldl History.extend h

theorem historyFrom_append (h : History) (ops more : List Operation) :
    historyFrom h (ops ++ more) = historyFrom (historyFrom h ops) more := by
  simp [historyFrom, List.foldl_append]

/-- The history of a run from an empty listing. -/
def history (ops : List Operation) : History := historyFrom .empty ops

theorem history_concat (ops : List Operation) (op : Operation) :
    history (ops ++ [op]) = (history ops).extend op := historyFrom_append .empty ops [op]

/-! ## §2. What counts. -/

namespace Attached

/-- The record describes the announced method. -/
def IsOwn (a : Attached) : Prop := a.record.method.token = a.announced

/-- The record does not describe the announced method, but is started by it. -/
def IsViaKickoff (a : Attached) : Prop :=
  ¬ a.IsOwn ∧ ∃ kickoff, a.record.kickoff = some kickoff ∧ kickoff.token = a.announced

/-- The record counts, one way or the other. -/
def Counts (a : Attached) : Prop := a.IsOwn ∨ a.IsViaKickoff

instance (a : Attached) : Decidable a.IsOwn := by
  unfold IsOwn
  infer_instance

theorem isViaKickoff_iff (a : Attached) :
    a.IsViaKickoff ↔ ¬ a.IsOwn ∧ a.record.isStartedBy a.announced = true := by
  unfold IsViaKickoff DebugRecord.isStartedBy
  cases a.record.kickoff <;> simp

instance (a : Attached) : Decidable a.IsViaKickoff := decidable_of_iff _ a.isViaKickoff_iff.symm

instance (a : Attached) : Decidable a.Counts := by
  unfold Counts
  infer_instance

end Attached

/-! ## §3. What is shown. -/

/-- The last record of a history that counts. -/
def lastCounting? (attached : List Attached) : Option Attached :=
  attached.findRev? fun a => decide a.Counts

/-- The last record of a history that counts through its kickoff method. -/
def lastViaKickoff? (attached : List Attached) : Option Attached :=
  attached.findRev? fun a => decide a.IsViaKickoff

/-- **What a history shows**: nothing if no record counts; the last one that
counts, if none counts through its kickoff method; otherwise the stub made
from the last one that does, with the last one that counts inside. -/
def shown? (attached : List Attached) : Option (DebugRecord × Option DebugRecord) :=
  (lastCounting? attached).bind fun last =>
    match lastViaKickoff? attached with
    | none => some (last.record, none)
    | some machine => machine.record.kickoffStub.map fun stub => (stub, some last.record)

end MethodListing.Resolution
