/-
  MethodListing.Debug.Record — DEBUG RECORDS.

  A debug record says, for one method, how its text maps back to its code.
  For async and iterator methods the compiler moves the user's code into a
  state machine; the method the user wrote, the KICKOFF method, only creates
  and starts it.  A record of a state machine names its kickoff method, and
  `kickoffStub` derives from it the little that can be said of that method.

  Main results:
    * `isSome_kickoffStub`   — exactly the records with a kickoff method have
      a stub;
    * `kickoffStub_stubFor`  — no stub has a stub itself;
    * `isBare_of_kickoffStub` — a stub says nothing but which method it is
      about, and how long that method's code is;
    * `kickoffStub_eq_of_beq` — equal records have the same stub.
-/
import MethodListing.Debug.Scope
import MethodListing.Method.Basic

namespace MethodListing

/-! ## §1. State machines. -/

/-- What kind of state machine a method implements; an ordinary method is
none. -/
inductive StateMachineKind where
  | ordinary
  | iterator
  | async
  | asyncIterator
  deriving Repr, DecidableEq

namespace StateMachineKind

instance : Inhabited StateMachineKind := ⟨ordinary⟩

/-- All kinds, in order. -/
def all : List StateMachineKind := [.ordinary, .iterator, .async, .asyncIterator]

/-- The name of a kind. -/
def name : StateMachineKind → String
  | .ordinary => "None"
  | .iterator => "IteratorMethod"
  | .async => "AsyncMethod"
  | .asyncIterator => "AsyncIteratorMethod"

/-- The kind with a given name. -/
def ofName? (name : String) : Option StateMachineKind := all.find? (·.name == name)

/-- Whether the method is a state machine at all. -/
def isStateMachine (kind : StateMachineKind) : Bool := kind != .ordinary

end StateMachineKind

/-- Where an async state machine gives up control and takes it up again. -/
structure AwaitPoints where
  /-- The catch handler the compiler made, if any. -/
  catchHandler : Option UInt32
  /-- Where it gives up control. -/
  yields : List UInt32
  /-- Where it takes it up again. -/
  resumes : List UInt32
  deriving Repr, DecidableEq, Inhabited

/-! ## §2. Records. -/

/-- The debug record of one method. -/
structure DebugRecord where
  /-- What produced the text. -/
  compilerName : String
  /-- The version of the settings it used. -/
  settingsVersion : Int32
  /-- What kind of state machine the method is. -/
  kind : StateMachineKind
  /-- The method described. -/
  method : Method
  /-- The method that starts the described one, if that is a state machine. -/
  kickoff : Option Method
  /-- The parameters, if known. -/
  parameters : Option (List Parameter)
  /-- The statements, in text order. -/
  statements : List Statement
  /-- The outermost scope. -/
  scope : Scope
  /-- The code of the method, where that is not the whole body. -/
  methodSpan : Option ILSpan
  /-- The await points of an async state machine. -/
  awaitPoints : Option AwaitPoints

/-- The span of a method's whole code, clamped to 32 bits. -/
def Method.bodySpan (m : Method) : ILSpan := .ofLength 0 (.ofNatClamp m.codeSize)

theorem Method.toNat_stop_bodySpan (m : Method) :
    m.bodySpan.stop.toNat = min m.codeSize (UInt32.size - 1) := by
  rw [bodySpan, ILSpan.toNat_stop_ofLength, ILSpan.toNat_ofNatClamp, UInt32.toNat_zero]
  omega

namespace DebugRecord

/-- **The blank record** of a method: one empty scope over its whole code. -/
def ofMethod (compilerName : String) (method : Method) : DebugRecord where
  compilerName := compilerName
  settingsVersion := 0
  kind := .ordinary
  method := method
  kickoff := none
  parameters := none
  statements := []
  scope := .empty method.bodySpan
  methodSpan := none
  awaitPoints := none

/-- **What can be said of a kickoff method**: nothing but its code, and what
produced the state machine's record with which settings. -/
def stubFor (r : DebugRecord) (kickoff : Method) : DebugRecord where
  compilerName := r.compilerName
  settingsVersion := r.settingsVersion
  kind := .ordinary
  method := kickoff
  kickoff := none
  parameters := none
  statements := []
  scope := .empty kickoff.bodySpan
  methodSpan := none
  awaitPoints := none

/-- **A stub is a blank record** in all but the settings version. -/
theorem stubFor_eq (r : DebugRecord) (kickoff : Method) :
    r.stubFor kickoff
      = { ofMethod r.compilerName kickoff with settingsVersion := r.settingsVersion } := rfl

/-- The stub of the kickoff method; `none` if there is no kickoff method. -/
def kickoffStub (r : DebugRecord) : Option DebugRecord := r.kickoff.map r.stubFor

/-- Equality of records: field by field. -/
def equal (a b : DebugRecord) : Bool :=
  a.compilerName == b.compilerName && a.settingsVersion == b.settingsVersion
    && a.kind == b.kind && a.method == b.method && a.kickoff == b.kickoff
    && a.parameters == b.parameters && a.statements == b.statements && a.scope == b.scope
    && a.methodSpan == b.methodSpan && a.awaitPoints == b.awaitPoints

instance : BEq DebugRecord := ⟨equal⟩

/-- Equal records are the same but for their scopes, and those are equal. -/
theorem beq_iff {a b : DebugRecord} :
    (a == b) = true ↔ a = { b with scope := a.scope } ∧ (a.scope == b.scope) = true := by
  show a.equal b = true ↔ _
  obtain ⟨compilerName, settingsVersion, kind, method, kickoff, parameters, statements, scope,
    methodSpan, awaitPoints⟩ := a
  simp only [equal, Bool.and_eq_true, beq_iff_eq, mk.injEq, true_and]
  grind

@[simp] theorem isSome_kickoffStub (r : DebugRecord) :
    r.kickoffStub.isSome = r.kickoff.isSome := Option.isSome_map

@[simp] theorem kickoffStub_stubFor (r : DebugRecord) (kickoff : Method) :
    (r.stubFor kickoff).kickoffStub = none := rfl

/-- The stub of a record is about the kickoff method. -/
theorem kickoff_of_kickoffStub {r stub : DebugRecord} (h : r.kickoffStub = some stub) :
    r.kickoff = some stub.method := by
  obtain ⟨kickoff, hkickoff, hstub⟩ := Option.map_eq_some_iff.1 h
  rw [hkickoff, ← hstub]
  rfl

/-- Equal records describe the same method. -/
theorem method_eq_of_beq {a b : DebugRecord} (h : (a == b) = true) : a.method = b.method := by
  rw [(beq_iff.1 h).1]

/-- Equal records have the same stub: no scope is looked at. -/
theorem kickoffStub_eq_of_beq {a b : DebugRecord} (h : (a == b) = true) :
    a.kickoffStub = b.kickoffStub := by
  rw [(beq_iff.1 h).1]
  rfl

/-! ## §3. Bare records. -/

/-- **A bare record**: no state machine, nothing known of parameters and
statements, and one scope without declarations over the whole code. -/
structure IsBare (r : DebugRecord) : Prop where
  kind_eq : r.kind = .ordinary
  kickoff_eq : r.kickoff = none
  parameters_eq : r.parameters = none
  statements_eq : r.statements = []
  isLeaf_scope : r.scope.isLeaf = true
  start_scope : r.scope.span.start = 0
  toNat_stop_scope : r.scope.span.stop.toNat = min r.method.codeSize (UInt32.size - 1)
  methodSpan_eq : r.methodSpan = none
  awaitPoints_eq : r.awaitPoints = none

theorem isBare_stubFor (r : DebugRecord) (kickoff : Method) : (r.stubFor kickoff).IsBare where
  kind_eq := rfl
  kickoff_eq := rfl
  parameters_eq := rfl
  statements_eq := rfl
  isLeaf_scope := rfl
  start_scope := rfl
  toNat_stop_scope := kickoff.toNat_stop_bodySpan
  methodSpan_eq := rfl
  awaitPoints_eq := rfl

theorem isBare_of_kickoffStub {r stub : DebugRecord} (h : r.kickoffStub = some stub) :
    stub.IsBare := by
  obtain ⟨kickoff, -, hstub⟩ := Option.map_eq_some_iff.1 h
  rw [← hstub]
  exact isBare_stubFor r kickoff

/-- A bare record is equal to itself: it has no constant that could be a NaN. -/
theorem IsBare.beq_self {r : DebugRecord} (h : r.IsBare) : (r == r) = true :=
  beq_iff.2 ⟨rfl, Scope.beq_self_of_isLeaf h.isLeaf_scope⟩

end DebugRecord

end MethodListing
