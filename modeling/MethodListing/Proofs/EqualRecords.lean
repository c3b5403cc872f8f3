/-
  MethodListing.Proofs.EqualRecords — EQUAL RECORDS ARE INTERCHANGEABLE.

  Equal attachments need not be identical: two records may differ in the sign
  of a zero somewhere in their scopes.  A listing never finds out.  Whether a
  record counts, what is reported about it, and the stub that is made from it
  depend on its tokens, names, versions and methods, and those are identical
  in equal records.  The scope is only handed on.

  So take two runs whose operations agree: they are the same, except that in
  place of some data equal data may be attached.  Slot by slot the listings
  keep agreeing, and nothing more than that can be seen of them: the records
  shown are equal, and a stub, which has no constants, is the same in both.

  Main results:
    * `DebugSlots.Agree.accept` — equal records, taken by slots that agree;
    * `Agree.apply`             — listings that agree, one operation later;
    * `trace_agree`             — runs that agree, seen after every operation.
-/
import Mathlib.Data.List.Forall2
import MethodListing.Listing.Effects
import MethodListing.Listing.Observation

namespace MethodListing

/-! ## §1. Runs that agree. -/

namespace Operation

/-- The data that the operation attaches; `none` if it attaches none. -/
def attached? : Operation → Option Attachment
  | .request (.attach data) => some data
  | _ => none

/-- **Operations that agree**: both attach data, equal to each other, or they
are the same operation and attach none.  Data with a NaN in it agrees with
nothing. -/
inductive Agree : Operation → Operation → Prop where
  | attach {data data' : Attachment} (h : (data == data') = true) :
      Agree (.request (.attach data)) (.request (.attach data'))
  | same {op : Operation} (h : op.attached? = none) : Agree op op

end Operation

/-! ## §2. What is seen to agree. -/

/-- **What two listings show agrees**, a record and maybe one inside: the
records are equal, and so are those inside.  Where there is one inside, what
is shown is the stub of its kickoff method, and that is the same on both
sides. -/
structure ShownAgree (shown shown' : DebugRecord × Option DebugRecord) : Prop where
  record_beq : (shown.1 == shown'.1) = true
  inner_rel : Option.Rel (fun r r' : DebugRecord => (r == r') = true) shown.2 shown'.2
  stub_eq : shown.2.isSome = true → shown.1 = shown'.1

/-- **Observations that agree**: the answers are the same, and the records
shown agree. -/
structure Observation.Agree (o o' : Observation) : Prop where
  text_eq : o.text = o'.text
  length_eq : o.length = o'.length
  nextPosition_eq : o.nextPosition = o'.nextPosition
  level_eq : o.level = o'.level
  announced_eq : o.announced = o'.announced
  options_eq : o.options = o'.options
  shown_rel : Option.Rel ShownAgree o.debugRecord? o'.debugRecord?

/-! ## §3. Slots that agree. -/

theorem DebugRecord.isStartedBy_eq_of_beq {r r' : DebugRecord} (h : (r == r') = true)
    (token : Token) : r.isStartedBy token = r'.isStartedBy token := by
  rw [(DebugRecord.beq_iff.1 h).1]
  rfl

namespace DebugSlots

/-- **Slots that agree**: the same method is announced, the last records that
counted are equal, and the stubs are the same.  A stub is bare. -/
structure Agree (d d' : DebugSlots) : Prop where
  announced_eq : d.announced = d'.announced
  primary_rel : Option.Rel (fun r r' : DebugRecord => (r == r') = true) d.primary d'.primary
  kickoff_eq : d.kickoff = d'.kickoff
  isBare_kickoff : ∀ stub, d.kickoff = some stub → stub.IsBare

theorem Agree.empty : Agree .empty .empty where
  announced_eq := rfl
  primary_rel := .none
  kickoff_eq := rfl
  isBare_kickoff := by
    intro stub h
    cases h

variable {d d' : DebugSlots}

theorem Agree.announce (h : Agree d d') (token : Token) :
    Agree (d.announce token) (d'.announce token) where
  announced_eq := rfl
  primary_rel := h.primary_rel
  kickoff_eq := h.kickoff_eq
  isBare_kickoff := h.isBare_kickoff

/-- **Equal records, taken by slots that agree**: the slots go on agreeing, and
the same is reported. -/
theorem Agree.accept (h : Agree d d') {r r' : DebugRecord} (hr : (r == r') = true) :
    Agree (d.accept r).state (d'.accept r').state ∧ (d.accept r).log = (d'.accept r').log := by
  have hmethod : r.method = r'.method := DebugRecord.method_eq_of_beq hr
  have hstarted : r.isStartedBy d.announced = r'.isStartedBy d'.announced := by
    rw [DebugRecord.isStartedBy_eq_of_beq hr, h.announced_eq]
  by_cases hown : r.method.token = d.announced
  · have hown' : r'.method.token = d'.announced := by rw [← hmethod, hown, h.announced_eq]
    rw [accept_own hown, accept_own hown']
    exact ⟨⟨h.announced_eq, .some hr, h.kickoff_eq, h.isBare_kickoff⟩, rfl⟩
  · have hown' : r'.method.token ≠ d'.announced := by rwa [← hmethod, ← h.announced_eq]
    by_cases hvia : r.isStartedBy d.announced = true
    · have hvia' : r'.isStartedBy d'.announced = true := by rw [← hstarted, hvia]
      rw [accept_viaKickoff hown hvia, accept_viaKickoff hown' hvia', hmethod, h.announced_eq]
      refine ⟨⟨rfl, .some hr, DebugRecord.kickoffStub_eq_of_beq hr, ?_⟩, rfl⟩
      intro stub hstub
      exact DebugRecord.isBare_of_kickoffStub hstub
    · have hunrelated : r.isStartedBy d.announced = false := by simpa using hvia
      have hunrelated' : r'.isStartedBy d'.announced = false := by rw [← hstarted, hunrelated]
      rw [accept_unrelated hown hunrelated, accept_unrelated hown' hunrelated', hmethod,
        h.announced_eq]
      exact ⟨h, rfl⟩

/-- An operation that attaches nothing leaves slots that agree in agreement. -/
theorem Agree.after (h : Agree d d') {op : Operation} (hop : op.attached? = none) :
    Agree (d.after op) (d'.after op) := by
  cases op with
  | reset => exact .empty
  | announce token => exact h.announce token
  | request request =>
      cases request with
      | attach data => cases hop
      | _ => exact h

/-- What slots that agree show agrees. -/
theorem Agree.lookup? (h : Agree d d') : Option.Rel ShownAgree d.lookup? d'.lookup? := by
  obtain ⟨announced, primary, kickoff⟩ := d
  obtain ⟨announced', primary', kickoff'⟩ := d'
  have hprimary : Option.Rel _ primary primary' := h.primary_rel
  obtain rfl : kickoff = kickoff' := h.kickoff_eq
  cases hprimary with
  | none => exact .none
  | @some r r' hr =>
      cases kickoff with
      | none => exact .some ⟨hr, .none, nofun⟩
      | some stub => exact .some ⟨(h.isBare_kickoff stub rfl).beq_self, .some hr, fun _ => rfl⟩

end DebugSlots

/-! ## §4. Listings that agree. -/

namespace Listing

/-- **Listings that agree**: their pages are the same, and their slots agree. -/
structure Agree (s s' : Listing) : Prop where
  page_eq : s.page = s'.page
  debug_agree : s.debug.Agree s'.debug

theorem Agree.empty (options : LayoutOptions) : Agree (empty options) (empty options) :=
  ⟨rfl, .empty⟩

variable {s s' : Listing}

/-- Equal data, attached to listings that agree. -/
theorem Agree.attach (h : Agree s s') {data data' : Attachment} (hdata : (data == data') = true) :
    Agree (s.attach data).state (s'.attach data').state
    ∧ (s.attach data).log = (s'.attach data').log := by
  have hid : data.id = data'.id := Attachment.id_eq_of_beq hdata
  have hentry : [LogEntry.ignoredAttachment data.id] = [.ignoredAttachment data'.id] := by rw [hid]
  cases data with
  | debugRecord r =>
      cases data' with
      | debugRecord r' =>
          obtain ⟨hagree, hlog⟩ := h.debug_agree.accept hdata
          exact ⟨⟨h.page_eq, hagree⟩, hlog⟩
      | _ => cases hdata
  | _ =>
      cases data' with
      | debugRecord r' => cases hdata
      | _ => exact ⟨h, hentry⟩

/-- **Listings that agree, one operation later** agree, and the operation
reports the same of both. -/
theorem Agree.apply (h : Agree s s') {op op' : Operation} (hop : op.Agree op') :
    Agree (Listing.apply op s).state (Listing.apply op' s').state
    ∧ (Listing.apply op s).log = (Listing.apply op' s').log := by
  cases hop with
  | attach hdata => exact h.attach hdata
  | same hop =>
      refine ⟨⟨?_, ?_⟩, ?_⟩
      · rw [page_apply, page_apply, h.page_eq]
      · rw [debug_apply, debug_apply]
        exact h.debug_agree.after hop
      · exact log_apply_congr (congrArg Page.level h.page_eq) h.debug_agree.announced_eq op

theorem Agree.observe (h : Agree s s') : s.observe.Agree s'.observe where
  text_eq := congrArg Page.text h.page_eq
  length_eq := congrArg Page.length h.page_eq
  nextPosition_eq := congrArg Page.nextPosition h.page_eq
  level_eq := congrArg Page.level h.page_eq
  announced_eq := h.debug_agree.announced_eq
  options_eq := congrArg Page.options h.page_eq
  shown_rel := h.debug_agree.lookup?

/-- **Runs that agree, on listings that agree**: after every operation the
listings agree, so what is seen of them does. -/
theorem Agree.trace (h : Agree s s') {ops ops' : List Operation}
    (hops : List.Forall₂ Operation.Agree ops ops') :
    List.Forall₂ (fun step step' => step.state.Agree step'.state ∧ step.log = step'.log)
      (Listing.trace ops s) (Listing.trace ops' s') := by
  induction hops generalizing s s' with
  | nil => exact .nil
  | cons hop _ ih =>
      obtain ⟨hagree, hlog⟩ := h.apply hop
      exact .cons ⟨hagree.observe, hlog⟩ (ih hagree)

/-- **Equal data is interchangeable.**  Two runs with the same options do the
same, except that in place of the data attached in one, equal data may be
attached in the other.  After every operation text, length, next position,
level, announced method and options are the same, and so are the entries; the
records shown are equal, as are the ones inside them, and where there is one
inside, the record shown is the same. -/
theorem trace_agree (options : LayoutOptions) {ops ops' : List Operation}
    (h : List.Forall₂ Operation.Agree ops ops') :
    List.Forall₂ (fun step step' => step.state.Agree step'.state ∧ step.log = step'.log)
      (trace ops (empty options)) (trace ops' (empty options)) :=
  (Agree.empty options).trace h

/-- The record of a state machine that another method starts, with one
floating-point constant. -/
def machineRecord (value : Binary64) : DebugRecord :=
  { DebugRecord.ofMethod "C#" ⟨⟨0x06000009⟩, "MoveNext", none⟩ with
    kickoff := some ⟨⟨0x06000001⟩, "Main", none⟩
    scope := ⟨⟨0, 4⟩, [⟨⟨1, 2⟩, [], [], [], [⟨"zero", .float value⟩]⟩], [], [], []⟩ }

/-- Either zero, deep in the scope of a state machine, makes the same listing. -/
theorem trace_agree_signed_zero :
    machineRecord ⟨0⟩ ≠ machineRecord ⟨0x8000000000000000⟩
    ∧ List.Forall₂ (fun step step' => step.state.Agree step'.state ∧ step.log = step'.log)
      (trace [.announce ⟨0x06000001⟩, .request (.attach (.debugRecord (machineRecord ⟨0⟩)))]
        (empty default))
      (trace [.announce ⟨0x06000001⟩,
        .request (.attach (.debugRecord (machineRecord ⟨0x8000000000000000⟩)))]
        (empty default)) := by
  constructor
  · intro h
    have hvalue := congrArg (fun r => r.scope.scopes.map Scope.constants) h
    simp [machineRecord] at hvalue
  · exact trace_agree default
      (.cons (.same rfl) (.cons (.attach (by decide +kernel)) .nil))

end Listing

end MethodListing
