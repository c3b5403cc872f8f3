/-
  MethodListing.Listing.DebugSlots — WHOSE DEBUG RECORD IS SHOWN.

  A listing is announced for one method.  A record attached to it counts if
  it describes that method, or else if that method is its kickoff method; any
  other record is dropped.  A record of a state machine is shown INSIDE the
  announced method: beside it, a stub of the kickoff method is kept.

  The two slots are filled on their own terms.  Each record that counts
  replaces the one before it, but only a record that counts through its
  kickoff method touches the slot of the stub.

  Main results:
    * `accept_own`, `accept_viaKickoff`, `accept_unrelated` — what each kind
      of record does.
-/
import MethodListing.Debug.Record
import MethodListing.Log

namespace MethodListing

/-- Whether a record's kickoff method has a given token. -/
def DebugRecord.isStartedBy (r : DebugRecord) (token : Token) : Bool :=
  r.kickoff.any (·.token == token)

/-- The announced method and the records kept for it. -/
structure DebugSlots where
  /-- The announced method; null if none was announced. -/
  announced : Token
  /-- The last record that counted. -/
  primary : Option DebugRecord
  /-- The stub of the kickoff method. -/
  kickoff : Option DebugRecord

namespace DebugSlots

/-! ## §1. Operations. -/

/-- Nothing announced, nothing kept. -/
def empty : DebugSlots := ⟨.null, none, none⟩

/-- Announce a method.  Records kept so far stay. -/
def announce (token : Token) (s : DebugSlots) : DebugSlots := { s with announced := token }

/-- **Take a record**, if it counts for the announced method. -/
def accept (r : DebugRecord) (s : DebugSlots) : Logged DebugSlots :=
  if r.method.token = s.announced then .silent { s with primary := some r }
  else if r.isStartedBy s.announced then
    .noting { s with primary := some r, kickoff := r.kickoffStub }
      (.attachedToKickoff r.method.token s.announced)
  else .noting s (.droppedRecord r.method.token s.announced)

/-- **The record to show**, and the record of the state machine inside it, if
there is one. -/
def lookup? (s : DebugSlots) : Option (DebugRecord × Option DebugRecord) :=
  s.primary.map fun primary =>
    match s.kickoff with
    | some kickoff => (kickoff, some primary)
    | none => (primary, none)

/-! ## §2. What each kind of record does. -/

theorem accept_own {r : DebugRecord} {s : DebugSlots} (h : r.method.token = s.announced) :
    s.accept r = .silent { s with primary := some r } := if_pos h

theorem accept_viaKickoff {r : DebugRecord} {s : DebugSlots}
    (h : r.method.token ≠ s.announced) (hk : r.isStartedBy s.announced = true) :
    s.accept r = .noting { s with primary := some r, kickoff := r.kickoffStub }
      (.attachedToKickoff r.method.token s.announced) := by
  rw [accept, if_neg h, if_pos hk]

theorem accept_unrelated {r : DebugRecord} {s : DebugSlots}
    (h : r.method.token ≠ s.announced) (hk : r.isStartedBy s.announced = false) :
    s.accept r = .noting s (.droppedRecord r.method.token s.announced) := by
  rw [accept, if_neg h, if_neg (by simp [hk])]

end DebugSlots

end MethodListing
