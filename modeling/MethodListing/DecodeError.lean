/-
  MethodListing.DecodeError — WHY BYTES WERE REFUSED.

  Decoding fails for one of two reasons: the bytes end too early, or what is
  there cannot be a method header.  The second reason has three causes, and
  each carries what its message shows.
-/

namespace MethodListing

/-- What makes bytes no method header. -/
inductive HeaderFault where
  /-- There is not a single byte. -/
  | noBytes
  /-- A fat header claims to be shorter than its fixed part. -/
  | shortHeader (declaredSize : Nat)
  /-- The format bits of the first byte are neither tiny nor fat. -/
  | unknownFormat (firstByte : UInt8)
  deriving Repr, DecidableEq

/-- Why bytes were refused. -/
inductive DecodeError where
  /-- A read would have gone beyond the last byte. -/
  | outOfBounds
  /-- The bytes are no method header. -/
  | malformed (fault : HeaderFault)
  deriving Repr, DecidableEq

/-- The cause, in words. -/
def HeaderFault.message : HeaderFault → String
  | .noBytes => "Provided data for body parsing is empty"
  | .shortHeader declaredSize =>
      "Fat MethodHeader declares a header size of " ++ toString declaredSize ++ " bytes"
  | .unknownFormat firstByte =>
      "MethodHeader is neither FAT nor TINY - " ++ toString firstByte.toNat

/-- **The error text.**  A malformed header is reported together with the
place that noticed it. -/
def DecodeError.message (location : String) : DecodeError → String
  | .outOfBounds => "Out of Bound read would have occurred!"
  | .malformed fault => "Malformed - " ++ location ++ ": " ++ fault.message

end MethodListing
