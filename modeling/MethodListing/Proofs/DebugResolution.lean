/-
  MethodListing.Proofs.DebugResolution — THE SLOTS REMEMBER ENOUGH.

  A listing keeps two debug records, however many were attached to it.  The
  invariant is that the two are a SUMMARY of the whole history (`slots`): the
  last record that counted, and the stub of the last one that counted through
  its kickoff method.  Every operation keeps slots and history in step, so
  what is shown after any run can be read off its history alone.

  Main results:
    * `debug_apply_eq_slots` — one operation keeps them in step;
    * `debug_run_eq_slots`   — and so does a run;
    * `debugRecord?_run`     — what a run shows, and what has no influence.
-/
import MethodListing.Listing.Effects
import MethodListing.Listing.Resolution

namespace MethodListing.Resolution

open Listing

/-! ## §1. The last element with a property. -/

section Last

variable {α : Type} {p : α → Prop}

/-- `x` is the last element of `xs` that `p` holds of. -/
def IsLast (p : α → Prop) (xs : List α) (x : α) : Prop :=
  ∃ before after, xs = before ++ x :: after ∧ p x ∧ ∀ y ∈ after, ¬ p y

theorem IsLast.prop {xs : List α} {x : α} (h : IsLast p xs x) : p x := by
  obtain ⟨-, -, -, hx, -⟩ := h
  exact hx

theorem IsLast.mem {xs : List α} {x : α} (h : IsLast p xs x) : x ∈ xs := by
  obtain ⟨before, after, rfl, -⟩ := h
  simp

theorem findRev?_concat (q : α → Bool) (xs : List α) (x : α) :
    (xs ++ [x]).findRev? q = if q x then some x else xs.findRev? q := by
  rw [List.findRev?_eq_find?_reverse, List.findRev?_eq_find?_reverse, List.reverse_append]
  show (x :: xs.reverse).find? q = _
  rw [List.find?_cons]
  cases q x <;> rfl

theorem findRev?_eq_none_iff [DecidablePred p] {xs : List α} :
    xs.findRev? (fun x => decide (p x)) = none ↔ ∀ x ∈ xs, ¬ p x := by
  rw [List.findRev?_eq_find?_reverse, List.find?_eq_none]
  simp

/-- Searching from the end finds exactly the last element. -/
theorem findRev?_eq_some_iff [DecidablePred p] {xs : List α} {x : α} :
    xs.findRev? (fun x => decide (p x)) = some x ↔ IsLast p xs x := by
  rw [List.findRev?_eq_find?_reverse, List.find?_eq_some_iff_append]
  constructor
  · intro h
    obtain ⟨hx, after, before, hxs, hafter⟩ := h
    refine ⟨before.reverse, after.reverse, ?_, by simpa using hx, ?_⟩
    · rw [← List.reverse_reverse xs, hxs]
      simp
    · intro y hy
      simpa using hafter y (List.mem_reverse.1 hy)
  · intro h
    obtain ⟨before, after, rfl, hx, hafter⟩ := h
    refine ⟨by simpa using hx, after.reverse, before.reverse, by simp, ?_⟩
    intro y hy
    simpa using hafter y (List.mem_reverse.1 hy)

/-- If there is an element with the property, there is a last one. -/
theorem exists_isLast [DecidablePred p] {xs : List α} {x : α} (hx : x ∈ xs) (hp : p x) :
    ∃ last, IsLast p xs last := by
  cases hlast : xs.findRev? fun y => decide (p y) with
  | some last => exact ⟨last, findRev?_eq_some_iff.1 hlast⟩
  | none => exact absurd hp (findRev?_eq_none_iff.1 hlast x hx)

end Last

/-! ## §2. The summary of a history. -/

/-- **What the slots hold after a history.** -/
def slots (h : History) : DebugSlots where
  announced := h.announced
  primary := (lastCounting? h.attached).map (·.record)
  kickoff := (lastViaKickoff? h.attached).bind (·.record.kickoffStub)

theorem lastCounting?_concat (attached : List Attached) (a : Attached) :
    lastCounting? (attached ++ [a]) = if a.Counts then some a else lastCounting? attached := by
  rw [lastCounting?, findRev?_concat]
  simp only [decide_eq_true_eq]
  rfl

theorem lastViaKickoff?_concat (attached : List Attached) (a : Attached) :
    lastViaKickoff? (attached ++ [a])
      = if a.IsViaKickoff then some a else lastViaKickoff? attached := by
  rw [lastViaKickoff?, findRev?_concat]
  simp only [decide_eq_true_eq]
  rfl

/-- A record that does not count leaves the slots as they are. -/
theorem state_accept_of_not_counts {s : DebugSlots} {r : DebugRecord}
    (h : ¬ Attached.Counts ⟨s.announced, r⟩) : (s.accept r).state = s := by
  have hown : r.method.token ≠ s.announced := fun he => h (.inl he)
  have hstarted : r.isStartedBy s.announced = false := by
    rw [Bool.eq_false_iff]
    intro hs
    exact h (.inr ((Attached.isViaKickoff_iff _).2 ⟨hown, hs⟩))
  rw [DebugSlots.accept_unrelated hown hstarted]
  rfl

/-- Accepting a record is what one more entry in the history does. -/
theorem accept_slots (h : History) (a : Attached) (ha : a.announced = h.announced) :
    ((slots h).accept a.record).state = slots { h with attached := h.attached ++ [a] } := by
  obtain ⟨announced, r⟩ := a
  subst ha
  simp only [slots.eq_def { h with attached := h.attached ++ [⟨h.announced, r⟩] },
    lastCounting?_concat, lastViaKickoff?_concat]
  by_cases hown : Attached.IsOwn ⟨h.announced, r⟩
  · -- its own match: the slot of the stub stays as it is
    have hmatch : r.method.token = (slots h).announced := hown
    rw [if_pos (show Attached.Counts _ from .inl hown), if_neg (fun hvia => hvia.1 hown),
      DebugSlots.accept_own hmatch]
    rfl
  · have hother : r.method.token ≠ (slots h).announced := hown
    by_cases hvia : Attached.IsViaKickoff ⟨h.announced, r⟩
    · rw [if_pos (show Attached.Counts _ from .inr hvia), if_pos hvia,
        DebugSlots.accept_viaKickoff hother ((Attached.isViaKickoff_iff _).1 hvia).2]
      rfl
    · -- neither: the record is dropped, and both searches look past it
      have hcounts : ¬ Attached.Counts ⟨h.announced, r⟩ := fun hc => hc.elim hown hvia
      rw [if_neg hcounts, if_neg hvia, state_accept_of_not_counts hcounts]
      rfl

/-- On slots and history alike, only announcements, records and new starts
leave a mark. -/
theorem after_slots (h : History) (op : Operation) :
    (slots h).after op = slots (h.extend op) := by
  cases op with
  | reset => rfl
  | announce token => rfl
  | request request =>
      cases request with
      | attach data =>
          cases data with
          | debugRecord r => exact accept_slots h ⟨h.announced, r⟩ rfl
          | _ => rfl
      | _ => rfl

/-- **One operation keeps slots and history in step.** -/
theorem debug_apply_eq_slots {s : Listing} {h : History} (hs : s.debug = slots h)
    (op : Operation) : (apply op s).state.debug = slots (h.extend op) := by
  rw [debug_apply, hs, after_slots]

/-- **A run keeps slots and history in step.** -/
theorem debug_run_eq_slots (ops : List Operation) {s : Listing} {h : History}
    (hs : s.debug = slots h) : (run ops s).state.debug = slots (historyFrom h ops) := by
  induction ops generalizing s h with
  | nil => exact hs
  | cons op ops ih =>
      rw [state_run_cons]
      exact ih (debug_apply_eq_slots hs op)

theorem debug_run_empty (options : LayoutOptions) (ops : List Operation) :
    (run ops (empty options)).state.debug = slots (history ops) :=
  debug_run_eq_slots ops rfl

/-! ## §3. What is shown. -/

/-- A record that counts through its kickoff method has one, and so a stub. -/
theorem exists_kickoffStub {a : Attached} (h : a.IsViaKickoff) :
    ∃ stub, a.record.kickoffStub = some stub := by
  obtain ⟨-, kickoff, hkickoff, -⟩ := h
  exact ⟨a.record.stubFor kickoff, by rw [DebugRecord.kickoffStub, hkickoff]; rfl⟩

/-- Looking at the slots shows what the history shows. -/
theorem lookup?_slots (h : History) : (slots h).lookup? = shown? h.attached := by
  unfold DebugSlots.lookup? slots shown?
  cases hlast : lastCounting? h.attached with
  | none => rfl
  | some last =>
      cases hmachine : lastViaKickoff? h.attached with
      | none => rfl
      | some machine =>
          obtain ⟨stub, hstub⟩ := exists_kickoffStub (findRev?_eq_some_iff.1 hmachine).prop
          simp only [Option.map_some, Option.bind_some, hstub]

/-- What a run shows is what its history shows. -/
theorem debugRecord?_run_eq_shown? (options : LayoutOptions) (ops : List Operation) :
    (run ops (empty options)).state.debugRecord? = shown? (history ops).attached := by
  show (run ops (empty options)).state.debug.lookup? = _
  rw [debug_run_empty, lookup?_slots]

/-- Data that makes a difference while a method is announced: a record that
counts for it. -/
def Matters (announced : Token) : Attachment → Prop
  | .debugRecord r => Attached.Counts ⟨announced, r⟩
  | _ => False

/-- Data that makes no difference leaves the listing as it is. -/
theorem state_attach_of_not_matters {s : Listing} {data : Attachment}
    (h : ¬ Matters s.announced data) : (s.attach data).state = s := by
  cases data with
  | debugRecord r =>
      show ({ s with debug := (s.debug.accept r).state } : Listing) = s
      rw [state_accept_of_not_counts h]
  | _ => rfl

/-- **What any run shows**: nothing if no attached record counts; the last one
that counts, if none counts through its kickoff method; otherwise the stub of
the last one that does, with the last one that counts inside.  Attachments
that do not count have no influence: taken out of the run at any place, they
leave it where it ended. -/
theorem debugRecord?_run (options : LayoutOptions) (ops : List Operation) :
    ((∀ a ∈ (history ops).attached, ¬ a.Counts) →
      (run ops (empty options)).state.debugRecord? = none)
    ∧ (∀ last, IsLast Attached.Counts (history ops).attached last →
        (∀ a ∈ (history ops).attached, ¬ a.IsViaKickoff) →
        (run ops (empty options)).state.debugRecord? = some (last.record, none))
    ∧ (∀ machine, IsLast Attached.IsViaKickoff (history ops).attached machine →
        ∃ stub last, machine.record.kickoffStub = some stub
          ∧ IsLast Attached.Counts (history ops).attached last
          ∧ (run ops (empty options)).state.debugRecord? = some (stub, some last.record))
    ∧ (∀ before data after, ops = before ++ .request (.attach data) :: after →
        ¬ Matters (history before).announced data →
        (run ops (empty options)).state = (run (before ++ after) (empty options)).state) := by
  rw [debugRecord?_run_eq_shown?, shown?]
  refine ⟨?_, ?_, ?_, ?_⟩
  · intro hnone
    rw [lastCounting?, findRev?_eq_none_iff.2 hnone]
    rfl
  · intro last hlast hnone
    rw [lastCounting?, findRev?_eq_some_iff.2 hlast, lastViaKickoff?, findRev?_eq_none_iff.2 hnone]
    rfl
  · intro machine hmachine
    obtain ⟨last, hlast⟩ := exists_isLast hmachine.mem (show machine.Counts from .inr hmachine.prop)
    obtain ⟨stub, hstub⟩ := exists_kickoffStub hmachine.prop
    refine ⟨stub, last, hstub, hlast, ?_⟩
    rw [lastCounting?, findRev?_eq_some_iff.2 hlast, lastViaKickoff?,
      findRev?_eq_some_iff.2 hmachine]
    show (machine.record.kickoffStub.map fun stub => (stub, some last.record)) = _
    rw [hstub]
    rfl
  · intro before data after hops hdata
    subst hops
    have hannounced : (run before (empty options)).state.announced = (history before).announced :=
      congrArg DebugSlots.announced (debug_run_empty options before)
    have hsame := state_attach_of_not_matters (hannounced ▸ hdata)
    rw [run_append, run_append]
    show (run after (attach data (run before (empty options)).state).state).state = _
    rw [hsame]
    rfl

end MethodListing.Resolution
