/-
  MethodListing.Method.Basic — METHODS.

  A listing looks at two facts of a method only: its token, to tell whose
  debug record it has been given, and the size of its code.
-/
import MethodListing.Method.BodyHeader

namespace MethodListing

/-- A method definition. -/
structure Method where
  /-- The token that identifies it. -/
  token : Token
  /-- Its name. -/
  name : String
  /-- The header of its body; `none` if it has no body. -/
  body : Option BodyHeader
  deriving Repr, DecidableEq

namespace Method

/-- Bytes of code; zero without a body. -/
def codeSize (m : Method) : Nat := (m.body.map (·.codeSize)).getD 0

/-- Whether there is a body. -/
def hasBody (m : Method) : Bool := m.body.isSome

end Method

end MethodListing
