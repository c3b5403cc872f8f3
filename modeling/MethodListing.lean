/-
  MethodListing — LISTINGS OF METHODS, AND THE DEBUG RECORDS THEY CARRY.
-/
import MethodListing.Debug.Canonical
import MethodListing.Listing.Balance
import MethodListing.Listing.Effects
import MethodListing.Listing.LineRanges
import MethodListing.Listing.Rendering
import MethodListing.Listing.Resolution
import MethodListing.Method.HeaderLayout
import MethodListing.Proofs.BeforeAnnouncement
import MethodListing.Proofs.ClampedLevel
import MethodListing.Proofs.CursorRun
import MethodListing.Proofs.DebugResolution
import MethodListing.Proofs.EqualRecords
import MethodListing.Proofs.HalvesApart
import MethodListing.Proofs.HeaderExtent
import MethodListing.Proofs.HeaderRoundTrip
import MethodListing.Proofs.HeaderVerdict
import MethodListing.Proofs.KickoffScope
import MethodListing.Proofs.LineByLine
import MethodListing.Proofs.LineEndings
import MethodListing.Proofs.LoggedLosses
import MethodListing.Proofs.NestedBlock
import MethodListing.Proofs.RecordEquality
import MethodListing.Proofs.Reuse
import MethodListing.Proofs.ShownRecord
import MethodListing.Proofs.SourceSpan
import MethodListing.Proofs.SpanOffsets
import MethodListing.Proofs.SubRange
import MethodListing.Proofs.TokenViews
import MethodListing.Proofs.WriteGroups
import MethodListing.Transcript
