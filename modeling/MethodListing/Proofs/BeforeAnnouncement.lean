/-
  MethodListing.Proofs.BeforeAnnouncement — RECORDS BEFORE AN ANNOUNCEMENT.

  A record that is attached before its method is announced cannot be matched
  to it.  But what stands for "nothing announced yet" is the null token, and
  records are compared with it as with any other.  So a record that names the
  null token, as its own method or as its kickoff method, counts after all;
  and like any record that counts it stays when a method is announced.  Other
  records leave no trace.

  Main results:
    * `history_unannounced`        — the history of a cycle that has announced
      nothing;
    * `shown?_eq_none_iff`         — when a history shows nothing;
    * `debugRecord?_run_no_record` — without records, what is shown stays;
    * `debugRecord?_unannounced`   — what is shown before an announcement, and
      behind it.
-/
import MethodListing.Listing.Cycle
import MethodListing.Proofs.DebugResolution
import MethodListing.Proofs.PageRun

namespace MethodListing

/-- **The record names the null token**, as its method or as its kickoff
method. -/
def DebugRecord.NamesNull (r : DebugRecord) : Prop :=
  r.method.token = .null ∨ ∃ kickoff, r.kickoff = some kickoff ∧ kickoff.token = .null

namespace Resolution

open Listing

/-! ## §1. The history of a cycle that has announced nothing. -/

/-- The records of a cycle, in order. -/
def records (cycle : List Operation) : List DebugRecord := cycle.filterMap Operation.record?

theorem mem_records_iff {cycle : List Operation} {r : DebugRecord} :
    r ∈ records cycle ↔ Attaches cycle r := by
  unfold records Attaches
  rw [List.mem_filterMap]
  constructor
  · rintro ⟨op, hop, hrecord⟩
    rw [← Operation.record?_eq_some_iff.1 hrecord]
    exact hop
  · intro h
    exact ⟨_, h, rfl⟩

/-- **Without announcements and new starts** the history grows by the records,
each with what was announced all along. -/
theorem historyFrom_unannounced {ops : List Operation} (hreset : ∀ op ∈ ops, op.isReset = false)
    (h : ∀ op ∈ ops, op.announces = false) (before : History) :
    historyFrom before ops
      = ⟨before.announced, before.attached ++ (records ops).map (⟨before.announced, ·⟩)⟩ := by
  induction ops generalizing before with
  | nil => simp [historyFrom, records]
  | cons op ops ih =>
      have hops := ih (fun o ho => hreset o (List.mem_cons_of_mem op ho))
        (fun o ho => h o (List.mem_cons_of_mem op ho)) (before.extend op)
      show historyFrom (before.extend op) ops = _
      rw [hops]
      cases op with
      | reset => cases hreset .reset List.mem_cons_self
      | announce token => cases h (.announce token) List.mem_cons_self
      | request request =>
          cases request with
          | attach data =>
              cases data with
              | debugRecord r => simp [History.extend, records, Operation.record?]
              | _ => rfl
          | _ => rfl

/-- Nothing before the last new start is in the history. -/
theorem history_sinceReset (ops : List Operation) : history ops = history (sinceReset ops) := by
  induction ops using List.reverseRec with
  | nil => rfl
  | append_singleton ops op ih =>
      rw [sinceReset_concat, history_concat, ih]
      split
      · next h =>
        rw [Operation.eq_reset_of_isReset h]
        rfl
      · rw [history_concat]

/-- **The history of a cycle that has announced nothing**: all its records,
attached to the null token. -/
theorem history_unannounced {ops : List Operation}
    (h : ∀ op ∈ sinceReset ops, op.announces = false) :
    (history ops).attached = (records (sinceReset ops)).map (⟨.null, ·⟩) := by
  rw [history_sinceReset, history,
    historyFrom_unannounced (fun _ => isReset_of_mem_sinceReset) h]
  rfl

/-! ## §2. What is shown. -/

/-- A history shows nothing exactly if no record of it counts. -/
theorem shown?_eq_none_iff (attached : List Attached) :
    shown? attached = none ↔ ∀ a ∈ attached, ¬ a.Counts := by
  constructor
  · intro h a ha hcounts
    obtain ⟨last, hlast⟩ := exists_isLast ha hcounts
    rw [shown?, lastCounting?, findRev?_eq_some_iff.2 hlast, Option.bind_some] at h
    cases hmachine : lastViaKickoff? attached with
    | none =>
        rw [hmachine] at h
        cases h
    | some machine =>
        obtain ⟨stub, hstub⟩ := exists_kickoffStub (findRev?_eq_some_iff.1 hmachine).prop
        rw [hmachine] at h
        simp [hstub] at h
  · intro h
    rw [shown?, lastCounting?, findRev?_eq_none_iff.2 h]
    rfl

/-- Before an announcement a record counts exactly if it names the null
token. -/
theorem counts_null_iff (r : DebugRecord) : Attached.Counts ⟨.null, r⟩ ↔ r.NamesNull := by
  constructor
  · rintro (hown | ⟨-, hkickoff⟩)
    · exact .inl hown
    · exact .inr hkickoff
  · rintro (hown | hkickoff)
    · exact .inl hown
    · -- a record may name the null token twice, and then it is its own match
      by_cases hown : r.method.token = .null
      · exact .inl hown
      · exact .inr ⟨hown, hkickoff⟩

/-- Without a record, an operation leaves what is shown, unless it starts
over. -/
theorem debugRecord?_apply_no_record {op : Operation} (hrecord : op.record? = none)
    (hreset : op.isReset = false) (s : Listing) :
    (apply op s).state.debugRecord? = s.debugRecord? := by
  show (apply op s).state.debug.lookup? = s.debug.lookup?
  rw [debug_apply]
  cases op with
  | reset => cases hreset
  | announce token => rfl
  | request request =>
      cases request with
      | attach data =>
          cases data with
          | debugRecord r => cases hrecord
          | _ => rfl
      | _ => rfl

/-- **Without records, what is shown stays** up to a new start, behind which
nothing is shown. -/
theorem debugRecord?_run_no_record {ops : List Operation} (h : ∀ op ∈ ops, op.record? = none)
    (s : Listing) :
    (run ops s).state.debugRecord?
      = if ops.any Operation.isReset then none else s.debugRecord? := by
  induction ops generalizing s with
  | nil => rfl
  | cons op ops ih =>
      rw [state_run_cons, ih fun o ho => h o (List.mem_cons_of_mem op ho), List.any_cons]
      by_cases hop : op.isReset = true
      · rw [Operation.eq_reset_of_isReset hop]
        show (if _ then none else none) = none
        exact ite_self _
      · have hop' : op.isReset = false := by simpa using hop
        rw [debugRecord?_apply_no_record (h op List.mem_cons_self) hop', hop', Bool.false_or]

/-- **What is shown before an announcement, and behind it.**  Take any point of
a run at which no method has been announced since the last new start.  Nothing
is shown there exactly if no record attached since then names the null token.
And what is shown, or that nothing is, stays when a method is announced and
anything happens but that a record is attached, up to a new start, behind
which nothing is shown. -/
theorem debugRecord?_unannounced (options : LayoutOptions) {ops : List Operation}
    (h : ∀ op ∈ sinceReset ops, op.announces = false) :
    ((run ops (empty options)).state.debugRecord? = none
      ↔ ∀ r, Attaches (sinceReset ops) r → ¬ r.NamesNull)
    ∧ ∀ (token : Token) (later : List Operation), (∀ op ∈ later, op.record? = none) →
        (run (ops ++ .announce token :: later) (empty options)).state.debugRecord?
          = if later.any Operation.isReset then none
            else (run ops (empty options)).state.debugRecord? := by
  constructor
  · rw [debugRecord?_run_eq_shown?, shown?_eq_none_iff, history_unannounced h]
    simp only [List.forall_mem_map, counts_null_iff, mem_records_iff]
  · intro token later hlater
    rw [run_append, Logged.state_andThen]
    refine debugRecord?_run_no_record ?_ _
    intro op hop
    rcases List.mem_cons.1 hop with hop | hop
    · rw [hop]
      rfl
    · exact hlater op hop

/-- In the second cycle a record is attached before its method is announced;
neither that method nor its kickoff method is the null token. -/
theorem debugRecord?_unannounced_second_cycle :
    (run ([.announce ⟨0x06000009⟩,
            .request (.attach (.debugRecord (.ofMethod "IL" ⟨⟨0x06000009⟩, "Main", none⟩))),
            .reset,
            .request (.attach (.debugRecord { DebugRecord.ofMethod "IL"
                ⟨⟨0x06000007⟩, "MoveNext", none⟩ with
              kickoff := some ⟨⟨0x06000002⟩, "Run", none⟩ }))]
          ++ .announce ⟨0x06000002⟩ :: [.request (.writeText "Run" .method)])
        (empty default)).state.debugRecord? = none := by
  have h := @debugRecord?_unannounced default
    [.announce ⟨0x06000009⟩,
      .request (.attach (.debugRecord (.ofMethod "IL" ⟨⟨0x06000009⟩, "Main", none⟩))),
      .reset,
      .request (.attach (.debugRecord { DebugRecord.ofMethod "IL"
          ⟨⟨0x06000007⟩, "MoveNext", none⟩ with
        kickoff := some ⟨⟨0x06000002⟩, "Run", none⟩ }))] (by decide)
  have hnone := h.1.2 (by
    intro r hr
    cases List.mem_singleton.1 hr
    rintro (hown | ⟨kickoff, hkickoff, htoken⟩)
    · cases hown
    · cases hkickoff
      cases htoken)
  rw [h.2 ⟨0x06000002⟩ [.request (.writeText "Run" .method)] (by decide), hnone]
  rfl

/-- A record of the null token is shown although nothing was announced, so not
every record is passed over before an announcement. -/
theorem not_forall_debugRecord?_unannounced :
    ¬ ∀ ops : List Operation, (∀ op ∈ sinceReset ops, op.announces = false) →
        (run ops (empty default)).state.debugRecord? = none := by
  intro h
  have hnone := h [.request (.attach (.debugRecord (.ofMethod "IL" ⟨.null, "Main", none⟩)))]
    (by decide)
  cases hnone

end Resolution

end MethodListing
