/-
  MethodListing.Token — METADATA TOKENS.

  A token names one row of one metadata table in 32 bits: the high byte is
  the table, the low 24 bits are the row, counted from one.  The null token
  stands for "nothing announced yet".  Tokens are ordered by their raw value.
-/
import MethodListing.Text.Hex

namespace MethodListing

/-- A metadata token. -/
structure Token where
  /-- The raw 32 bits. -/
  value : UInt32
  deriving Repr, DecidableEq

namespace Token

/-! ## §1. Parts. -/

/-- The table id: bits 24 to 31. -/
def table (t : Token) : UInt8 := (t.value >>> 24).toUInt8

/-- The row index: bits 0 to 23. -/
def row (t : Token) : UInt32 := t.value &&& 0xFFFFFF

theorem toNat_table (t : Token) : t.table.toNat = t.value.toNat / 0x1000000 := by
  have hvalue : t.value.toNat < 0x100000000 := t.value.toNat_lt
  have htable : t.table.toNat = t.value.toNat / 0x1000000 % 0x100 := by
    rw [table, UInt32.toNat_toUInt8, UInt32.toNat_shiftRight, Nat.shiftRight_eq_div_pow]
    rfl
  omega

theorem toNat_low24 (n : UInt32) : (n &&& 0xFFFFFF).toNat = n.toNat % 0x1000000 := by
  rw [UInt32.toNat_and]
  exact Nat.and_two_pow_sub_one_eq_mod _ 24

theorem toNat_row (t : Token) : t.row.toNat = t.value.toNat % 0x1000000 := toNat_low24 t.value

/-- The token that names nothing. -/
def null : Token := ⟨0⟩

instance : Inhabited Token := ⟨null⟩

/-- Whether the token names nothing. -/
def isNull (t : Token) : Bool := t == null

/-- The id of the table that holds method definitions. -/
def methodDefTable : UInt8 := 0x06

/-- **The token of a method definition.**  Rows wider than 24 bits are cut to
24, so that they do not leak into the table byte. -/
def methodDef (row : UInt32) : Token :=
  ⟨(methodDefTable.toUInt32 <<< 24) ||| (row &&& 0xFFFFFF)⟩

theorem toNat_value_methodDef (row : UInt32) :
    (methodDef row).value.toNat
      = methodDefTable.toNat * 0x1000000 + row.toNat % 0x1000000 := by
  have hfits : row.toNat % 0x1000000 < 0x1000000 := Nat.mod_lt _ (by decide)
  rw [methodDef, UInt32.toNat_or, toNat_low24]
  -- the row stays below the table byte, so putting the two together adds them
  exact (@Nat.shiftLeft_add_eq_or_of_lt 24 _ hfits methodDefTable.toNat).symm

/-- Tokens are compared by raw value. -/
instance : Ord Token := ⟨fun a b => compare a.value b.value⟩

/-! ## §2. Texts. -/

/-- The text of a token: `0x` and eight digits. -/
def display (t : Token) : String := Hex.literal 8 t.value.toNat

/-- The token with its parts spelled out. -/
def describe (t : Token) : String :=
  "Token(" ++ t.display ++ ", table: " ++ Hex.literal 2 t.table.toNat
    ++ ", row: " ++ toString t.row ++ ")"

end Token

end MethodListing
