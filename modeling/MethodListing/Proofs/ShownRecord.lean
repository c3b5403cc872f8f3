/-
  MethodListing.Proofs.ShownRecord — THE RECORD SHOWN IS THE ANNOUNCED METHOD'S.

  A record is matched against the method that is announced when it is
  attached, and it stays in its slot when another method is announced.  In
  general, then, the record shown need not be about the method announced now.
  In orderly cycles it is: the invariant is that every record of the current
  history was attached while the method was announced that still is
  (`Current`).  An announcement keeps it because in an orderly cycle there is
  no record yet.

  Main results:
    * `exists_cycle_begins` — at any point of a run, what happened since the
      last new start is the beginning of one of its cycles;
    * `Current.extend`, `current_history` — the invariant, for one operation
      and for a run;
    * `shown_is_announced`     — whose record is shown, and where it is from.
-/
import MethodListing.Listing.Cycle
import MethodListing.Proofs.DebugResolution
import MethodListing.Proofs.PageRun

namespace MethodListing.Resolution

open Listing

/-! ## §1. The current cycle. -/

theorem eq_sinceReset_or_exists (ops : List Operation) :
    ops = sinceReset ops ∨ ∃ front, ops = front ++ .reset :: sinceReset ops := by
  induction ops using List.reverseRec with
  | nil => exact .inl rfl
  | append_singleton ops op ih =>
      rw [sinceReset_concat]
      by_cases hop : op.isReset = true
      · rw [if_pos hop, Operation.eq_reset_of_isReset hop]
        exact .inr ⟨ops, rfl⟩
      · rw [if_neg hop]
        rcases ih with h | ⟨front, h⟩
        · exact .inl (congrArg (· ++ [op]) h)
        · refine .inr ⟨front, ?_⟩
          have hconcat := congrArg (· ++ [op]) h
          simpa using hconcat

/-- **At any point of a run**, what happened since the last new start is the
beginning of one of the cycles of the whole run. -/
theorem exists_cycle_begins (before after : List Operation) :
    ∃ cycle ∈ cycles (before ++ after), sinceReset before <+: cycle := by
  have hfree : ∀ op ∈ sinceReset before, op.isReset = false := fun _ => isReset_of_mem_sinceReset
  obtain ⟨rest, later, hcycles⟩ := exists_cycles_append hfree after
  refine ⟨sinceReset before ++ rest, ?_, List.prefix_append _ _⟩
  rcases eq_sinceReset_or_exists before with h | ⟨front, h⟩
  · have hrun : before ++ after = sinceReset before ++ after := congrArg (· ++ after) h
    rw [hrun, hcycles]
    exact List.mem_cons_self
  · have hrun : before ++ after = front ++ .reset :: (sinceReset before ++ after) := by
      have happend := congrArg (· ++ after) h
      simpa using happend
    rw [hrun, cycles_append_reset, hcycles]
    exact List.mem_append_right _ List.mem_cons_self

/-! ## §2. The history of an orderly cycle. -/

/-- Every record of the history was attached in the cycle, and while the
method was announced that still is. -/
def Current (h : History) (cycle : List Operation) : Prop :=
  ∀ a ∈ h.attached, a.announced = h.announced ∧ Attaches cycle a.record

/-- **One operation of an orderly cycle** keeps its records current. -/
theorem Current.extend {h : History} {cycle : List Operation} {op : Operation}
    (hcurrent : Current h cycle) (horderly : Orderly (cycle ++ [op]))
    (hop : op.isReset = false) : Current (h.extend op) (cycle ++ [op]) := by
  -- what was attached so far stays attached in the longer cycle
  have hsame : ∀ a ∈ h.attached, a.announced = h.announced ∧ Attaches (cycle ++ [op]) a.record := by
    intro a ha
    obtain ⟨hannounced, hmem⟩ := hcurrent a ha
    exact ⟨hannounced, List.mem_append_left _ hmem⟩
  cases op with
  | reset => simp [Operation.isReset] at hop
  | announce token =>
      intro a ha
      -- a record before an announcement is out of order
      obtain ⟨-, hmem⟩ := hcurrent a ha
      obtain ⟨-, hnone⟩ := (orderly_concat.1 horderly).2 _ hmem rfl
      cases hnone
  | request request =>
      cases request with
      | attach data =>
          cases data with
          | debugRecord r =>
              intro a ha
              rcases List.mem_append.1 ha with hold | hnew
              · exact hsame a hold
              · rw [List.mem_singleton.1 hnew]
                exact ⟨rfl, List.mem_append_right _ List.mem_cons_self⟩
          | _ => exact hsame
      | _ => exact hsame

/-- **The records of an orderly cycle are current.** -/
theorem current_history {ops : List Operation} (h : Orderly (sinceReset ops)) :
    Current (history ops) (sinceReset ops) := by
  induction ops using List.reverseRec with
  | nil =>
      intro a ha
      cases ha
  | append_singleton ops op ih =>
      rw [sinceReset_concat] at h ⊢
      rw [history_concat]
      by_cases hop : op.isReset = true
      · -- nothing is attached after a new start
        rw [Operation.eq_reset_of_isReset hop]
        intro a ha
        cases ha
      · rw [if_neg hop] at h ⊢
        exact (ih (orderly_concat.1 h).1).extend h (by simpa using hop)

/-! ## §3. What is shown. -/

/-- What a history shows comes from its records. -/
theorem mem_of_shown? {attached : List Attached} {shown : DebugRecord}
    {inner : Option DebugRecord} (h : shown? attached = some (shown, inner)) :
    (inner = none ∧ ∃ own ∈ attached, own.IsOwn ∧ own.record = shown)
    ∨ ∃ last ∈ attached, last.Counts ∧ inner = some last.record
        ∧ ∃ machine ∈ attached, machine.IsViaKickoff ∧ machine.record.kickoffStub = some shown := by
  unfold shown? at h
  cases hlast : lastCounting? attached with
  | none =>
      rw [hlast] at h
      cases h
  | some last =>
      have hcounts := findRev?_eq_some_iff.1 hlast
      rw [hlast] at h
      cases hmachine : lastViaKickoff? attached with
      | none =>
          rw [hmachine] at h
          cases h
          -- it counts, but not through its kickoff method
          have hown : last.IsOwn := by
            rcases hcounts.prop with hown | hvia
            · exact hown
            · exact absurd hvia (findRev?_eq_none_iff.1 hmachine last hcounts.mem)
          exact .inl ⟨rfl, last, hcounts.mem, hown, rfl⟩
      | some machine =>
          have hvia := findRev?_eq_some_iff.1 hmachine
          rw [hmachine] at h
          obtain ⟨stub, hstub, hpair⟩ := Option.map_eq_some_iff.1 h
          cases hpair
          exact .inr ⟨last, hcounts.mem, hcounts.prop, rfl, machine, hvia.mem, hvia.prop, hstub⟩

/-- The stub of a record that counts through its kickoff method is about the
announced method. -/
theorem token_of_kickoffStub {machine : Attached} (h : machine.IsViaKickoff) {stub : DebugRecord}
    (hstub : machine.record.kickoffStub = some stub) :
    stub.method.token = machine.announced := by
  obtain ⟨-, kickoff, hkickoff, htoken⟩ := h
  have hmethod := DebugRecord.kickoff_of_kickoffStub hstub
  rw [hkickoff] at hmethod
  cases hmethod
  exact htoken

/-- **The record shown is the announced method's.**  Let every cycle of a run
be orderly.  At any point of the run, if a record is shown, it is about the
method announced there.  Shown alone, it was attached in the current cycle.
Shown with another record inside, that one was attached in the current cycle
and counts for the announced method, and the one shown is the bare stub of
some record of the current cycle. -/
theorem shown_is_announced (options : LayoutOptions) {ops before after : List Operation}
    (hcycles : ∀ cycle ∈ cycles ops, Orderly cycle) (hops : ops = before ++ after)
    {shown : DebugRecord} {inner : Option DebugRecord}
    (h : (run before (empty options)).state.debugRecord? = some (shown, inner)) :
    shown.method.token = (run before (empty options)).state.announced
    ∧ (inner = none → Attaches (sinceReset before) shown)
    ∧ ∀ r, inner = some r →
        Attaches (sinceReset before) r
        ∧ (r.method.token = (run before (empty options)).state.announced
            ∨ ∃ kickoff, r.kickoff = some kickoff
                ∧ kickoff.token = (run before (empty options)).state.announced)
        ∧ (∃ machine, Attaches (sinceReset before) machine ∧ machine.kickoffStub = some shown)
        ∧ shown.IsBare := by
  obtain ⟨cycle, hcycle, hbegins⟩ := exists_cycle_begins before after
  rw [← hops] at hcycle
  have hcurrent := current_history ((hcycles cycle hcycle).of_begins hbegins)
  have hannounced : (run before (empty options)).state.announced = (history before).announced :=
    congrArg DebugSlots.announced (debug_run_empty options before)
  rw [debugRecord?_run_eq_shown?] at h
  rw [hannounced]
  rcases mem_of_shown? h with ⟨hinner, own, hmem, hown, hshown⟩
    | ⟨last, hlast, hcounts, hinner, machine, hmachine, hvia, hstub⟩
  · obtain ⟨htoken, hattached⟩ := hcurrent own hmem
    rw [← hshown, ← htoken]
    refine ⟨hown, fun _ => hattached, ?_⟩
    intro r hr
    rw [hinner] at hr
    cases hr
  · obtain ⟨hlastToken, hlastAttached⟩ := hcurrent last hlast
    obtain ⟨hmachineToken, hmachineAttached⟩ := hcurrent machine hmachine
    refine ⟨?_, ?_, ?_⟩
    · rw [← hmachineToken]
      exact token_of_kickoffStub hvia hstub
    · intro hnone
      rw [hinner] at hnone
      cases hnone
    · intro r hr
      rw [hinner] at hr
      cases hr
      refine ⟨hlastAttached, ?_, ⟨machine.record, hmachineAttached, hstub⟩,
        DebugRecord.isBare_of_kickoffStub hstub⟩
      rw [← hlastToken]
      rcases hcounts with hown | ⟨-, hkickoff⟩
      · exact .inl hown
      · exact .inr hkickoff

/-- The second of two cycles, in which a state machine's record is followed by
one of the announced method itself; the code of that method is too long for a
span. -/
theorem shown_is_announced_second_cycle :
    ∃ shown, (run [.announce ⟨0x06000009⟩,
        .request (.attach (.debugRecord (.ofMethod "IL" ⟨⟨0x06000009⟩, "Main", none⟩))), .reset,
        .request (.attach (.lineSeparator 0)), .announce ⟨0x06000002⟩,
        .request (.writeText "Run" .method),
        .request (.attach (.debugRecord { DebugRecord.ofMethod "IL"
            ⟨⟨0x06000007⟩, "MoveNext", none⟩ with
          kickoff := some ⟨⟨0x06000002⟩, "Run", some (.ofCodeSize 5000000000)⟩ })),
        .request (.attach (.debugRecord (.ofMethod "C#" ⟨⟨0x06000002⟩, "Run", none⟩)))]
        (empty default)).state.debugRecord?
        = some (shown, some (.ofMethod "C#" ⟨⟨0x06000002⟩, "Run", none⟩))
      ∧ shown.method.token = ⟨0x06000002⟩ ∧ shown.IsBare := by
  refine ⟨_, rfl, ?_⟩
  have h := @shown_is_announced default _
    [.announce ⟨0x06000009⟩,
        .request (.attach (.debugRecord (.ofMethod "IL" ⟨⟨0x06000009⟩, "Main", none⟩))), .reset,
        .request (.attach (.lineSeparator 0)), .announce ⟨0x06000002⟩,
        .request (.writeText "Run" .method),
        .request (.attach (.debugRecord { DebugRecord.ofMethod "IL"
            ⟨⟨0x06000007⟩, "MoveNext", none⟩ with
          kickoff := some ⟨⟨0x06000002⟩, "Run", some (.ofCodeSize 5000000000)⟩ })),
        .request (.attach (.debugRecord (.ofMethod "C#" ⟨⟨0x06000002⟩, "Run", none⟩)))]
    [.request .writeLine, .reset] (by decide) rfl _ _ rfl
  exact ⟨h.1, (h.2.2 _ rfl).2.2.2⟩

end MethodListing.Resolution
