/-
  MethodListing.Proofs.Reuse — A REUSED LISTING IS LIKE A NEW ONE.

  Starting over keeps the options and nothing else, and no operation before
  it can have changed those.  So whatever a listing was used for, from a new
  start on it cannot be told from one that was never used: not by any answer,
  not by any entry, and not later on either.

  Main results:
    * `trace_reused` — nothing that is seen tells the two apart.
-/
import MethodListing.Listing.Effects
import MethodListing.Listing.Observation

namespace MethodListing.Listing

/-- **A reused listing cannot be told from a new one.**  After any use and a
new start, a listing answers like a new one; every further operation makes
the same entries and leaves the same answers as on a new listing; and what
cannot be seen is the same as well. -/
theorem trace_reused (options : LayoutOptions) (first second : List Operation) :
    trace (first ++ .reset :: second) (empty options)
        = trace first (empty options)
          ++ .silent (observe (empty options)) :: trace second (empty options)
    ∧ (run (first ++ .reset :: second) (empty options)).state
        = (run second (empty options)).state := by
  constructor
  · rw [trace_append, trace, state_run_reset]
    congr 2
    -- the new start itself is silent, and is seen as a new listing
    show Logged.silent (observe (apply .reset (run first (empty options)).state).state) = _
    rw [state_run_reset]
  · rw [run_append, Logged.state_andThen, state_run_cons, state_run_reset]

end MethodListing.Listing
