/-
  MethodListing.Debug.Declaration — WHAT A METHOD AND ITS SCOPES DECLARE.

  Parameters, locals, imports and constants.  All of them are compared field
  by field.  Floating-point constants are the exception: they are carried as
  64 bits and never computed with, but compared as numbers, so that a NaN
  differs from everything and the two zeros are equal.
-/
import MethodListing.Token

namespace MethodListing

/-! ## §1. Names. -/

/-- A parameter as it is named in the text. -/
structure Parameter where
  /-- The name shown. -/
  name : String
  /-- Its position; zero is the receiver of an instance method. -/
  index : UInt32
  deriving Repr, DecidableEq

/-- A local variable. -/
structure Local where
  /-- The name shown. -/
  name : String
  /-- Its slot; `none` if it exists in the text only. -/
  slot : Option UInt32
  /-- Whether it was made up for the text. -/
  isGenerated : Bool
  deriving Repr, DecidableEq

/-- What one import makes available. -/
inductive Import where
  /-- The members of a namespace, of one assembly or of any. -/
  | members (namespaceName : String) (assembly : Option String)
  /-- The static members of a type. -/
  | statics (type : Token)
  /-- Another name for a namespace. -/
  | namespaceAlias (shortName namespaceName : String)
  /-- Another name for a type. -/
  | typeAlias (shortName : String) (type : Token)
  /-- A name for an XML namespace. -/
  | xmlNamespace (shortName uri : String)
  deriving Repr, DecidableEq

/-! ## §2. Floating-point numbers, as bits. -/

/-- A binary64 number, given by its bits. -/
structure Binary64 where
  /-- Sign, 11 bits of exponent, 52 bits of fraction. -/
  bits : UInt64
  deriving Repr, DecidableEq

namespace Binary64

/-- The bits without the sign. -/
def magnitude (x : Binary64) : Nat := x.bits.toNat % 0x8000000000000000

/-- The magnitude of infinity: all exponent bits, no fraction. -/
def infinity : Nat := 0x7FF0000000000000

/-- Whether the number is none: all exponent bits, and some fraction. -/
def isNaN (x : Binary64) : Bool := infinity < x.magnitude

/-- Whether the number is one of the two zeros. -/
def isZero (x : Binary64) : Bool := x.magnitude == 0

/-- **Comparison as numbers**: no NaN is equal to anything, the two zeros are
equal, and all else is equal if the bits are. -/
def numericEq (x y : Binary64) : Bool :=
  !x.isNaN && !y.isNaN && (x.bits == y.bits || (x.isZero && y.isZero))

instance : BEq Binary64 := ⟨numericEq⟩

end Binary64

/-! ## §3. Constants. -/

/-- The value of a constant. -/
inductive ConstantValue where
  | null
  | boolean (value : Bool)
  | integer (value : Int64)
  | float (value : Binary64)
  | string (value : String)
  deriving Repr

/-- Equality of constant values; floating-point numbers are compared as
numbers. -/
def ConstantValue.equal : ConstantValue → ConstantValue → Bool
  | .null, .null => true
  | .boolean a, .boolean b => a == b
  | .integer a, .integer b => a == b
  | .float a, .float b => a == b
  | .string a, .string b => a == b
  | _, _ => false

instance : BEq ConstantValue := ⟨ConstantValue.equal⟩

/-- A named constant. -/
structure Constant where
  /-- The name shown. -/
  name : String
  /-- What it stands for. -/
  value : ConstantValue
  deriving Repr

instance : BEq Constant := ⟨fun a b => a.name == b.name && a.value == b.value⟩

end MethodListing
