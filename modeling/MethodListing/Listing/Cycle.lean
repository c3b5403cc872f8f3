/-
  MethodListing.Listing.Cycle — ONE LISTING FOR MANY METHODS.

  A listing is used for one method after the other, with a new start between
  them.  What lies between two new starts is a CYCLE.  An orderly cycle first
  announces its method, if it announces one at all, and then attaches the
  records that belong to it; text may be written at any time, and data other
  than records attached.

  Main results:
    * `orderly_concat`    — a cycle can be checked while it grows;
    * `exists_cycles_append`, `cycles_append_reset` — where the cycles of a run
      lie in it.
-/
import MethodListing.Listing.Operation

namespace MethodListing

/-! ## §1. Announcements and records. -/

namespace Operation

/-- Whether the operation announces a method. -/
def announces : Operation → Bool
  | .announce _ => true
  | _ => false

/-- The record that the operation attaches; `none` if it attaches none. -/
def record? : Operation → Option DebugRecord
  | .request (.attach (.debugRecord r)) => some r
  | _ => none

theorem record?_eq_some_iff {op : Operation} {r : DebugRecord} :
    op.record? = some r ↔ op = .request (.attach (.debugRecord r)) := by
  constructor
  · intro h
    cases op with
    | request request =>
        cases request with
        | attach data =>
            cases data with
            | debugRecord attached =>
                cases h
                rfl
            | _ => cases h
        | _ => cases h
    | _ => cases h
  · intro h
    rw [h]
    rfl

end Operation

/-! ## §2. Orderly cycles. -/

namespace Listing

/-- The cycles of a run. -/
def cycles (ops : List Operation) : List (List Operation) := ops.splitOnP Operation.isReset

/-- The record was attached in the cycle. -/
def Attaches (cycle : List Operation) (r : DebugRecord) : Prop :=
  .request (.attach (.debugRecord r)) ∈ cycle

/-- **An orderly cycle**: no announcement comes after another one, or after a
record. -/
def Orderly (cycle : List Operation) : Prop :=
  cycle.Pairwise fun earlier later =>
    later.announces = true → earlier.announces = false ∧ earlier.record? = none

instance (cycle : List Operation) : Decidable (Orderly cycle) :=
  inferInstanceAs (Decidable (cycle.Pairwise _))

theorem orderly_concat {cycle : List Operation} {op : Operation} :
    Orderly (cycle ++ [op]) ↔ Orderly cycle
      ∧ ∀ earlier ∈ cycle, op.announces = true →
          earlier.announces = false ∧ earlier.record? = none := by
  unfold Orderly
  rw [List.pairwise_append]
  constructor
  · intro h
    obtain ⟨hcycle, -, hlast⟩ := h
    exact ⟨hcycle, fun earlier hmem => hlast earlier hmem op (List.mem_singleton.2 rfl)⟩
  · intro h
    obtain ⟨hcycle, hlast⟩ := h
    refine ⟨hcycle, List.pairwise_singleton _ _, ?_⟩
    intro earlier hmem later hlater
    rw [List.mem_singleton.1 hlater]
    exact hlast earlier hmem

/-- What an orderly cycle starts with is orderly. -/
theorem Orderly.of_begins {begun cycle : List Operation} (h : Orderly cycle)
    (hbegins : begun <+: cycle) : Orderly begun := List.Pairwise.sublist hbegins.sublist h

/-! ## §3. Cutting a run into cycles. -/

/-- Operations without a new start stand at the front of the first cycle. -/
theorem exists_cycles_append {front : List Operation} (h : ∀ op ∈ front, op.isReset = false)
    (back : List Operation) :
    ∃ rest later, cycles (front ++ back) = (front ++ rest) :: later := by
  induction front with
  | nil => exact List.exists_cons_of_ne_nil (List.splitOnP_ne_nil _ back)
  | cons op front ih =>
      have hop : op.isReset = false := h op List.mem_cons_self
      obtain ⟨rest, later, hcycles⟩ := ih fun o ho => h o (List.mem_cons_of_mem op ho)
      refine ⟨rest, later, ?_⟩
      unfold cycles at hcycles ⊢
      rw [List.cons_append, List.splitOnP_cons_eq_if_modifyHead, if_neg (by simp [hop]), hcycles,
        List.modifyHead_cons]
      rfl

theorem cycles_append_reset (front back : List Operation) :
    cycles (front ++ .reset :: back) = cycles front ++ cycles back :=
  List.splitOnP_append_cons front back rfl

end Listing

end MethodListing
