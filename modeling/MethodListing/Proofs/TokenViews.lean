/-
  MethodListing.Proofs.TokenViews — THE VIEWS OF A TOKEN AGREE.

  A token is 32 bits, and there are three ways to look at them: as one number,
  as a table and a row, and as a text.  No view loses anything and all of them
  put tokens in the same order.  The table is the number's quotient by 2^24
  and the row its remainder, so numbers are ordered by table and then by row;
  the text is the number in eight digits, leading zeros included, so texts
  have one length and their first difference decides.

  Main results:
    * `value_eq_table_row`  — the number, put together from table and row;
    * `compare_table_row`   — the order by table, then row;
    * `methodDef_eq_iff`    — which rows give the same method definition;
    * `display_digits`      — the eight digits, and what they read back to;
    * `compare_display`     — the order of the texts;
    * `views_agree`         — all of it, for every token and row.
-/
import Mathlib.Data.String.Basic
import MethodListing.Token

namespace MethodListing.Token

/-! ## §1. Table and row. -/

theorem toNat_row_lt (t : Token) : t.row.toNat < 2 ^ 24 := by
  rw [toNat_row]
  omega

/-- **The number, put together from table and row.** -/
theorem value_eq_table_row (t : Token) :
    t.value.toNat = t.table.toNat * 2 ^ 24 + t.row.toNat := by
  rw [toNat_table, toNat_row]
  omega

theorem eq_iff_toNat_value {s t : Token} : s = t ↔ s.value.toNat = t.value.toNat := by
  rw [UInt32.toNat_inj, Token.mk.injEq]

/-- A token is given by its table and its row. -/
theorem eq_iff_table_row {s t : Token} : s = t ↔ s.table = t.table ∧ s.row = t.row := by
  constructor
  · rintro rfl
    exact ⟨rfl, rfl⟩
  · rintro ⟨htable, hrow⟩
    rw [eq_iff_toNat_value, value_eq_table_row s, value_eq_table_row t, htable, hrow]

/-- Orderings agree if they say "less" together and "equal" together. -/
theorem ordering_ext {o p : Ordering} (hlt : o = .lt ↔ p = .lt) (heq : o = .eq ↔ p = .eq) :
    o = p := by
  cases o <;> cases p <;> simp_all

/-- **The order by table, then row**, is the order of the numbers. -/
theorem compare_table_row (s t : Token) :
    compare s.value t.value = compareLex (compareOn table) (compareOn row) s t := by
  have hs := value_eq_table_row s
  have ht := value_eq_table_row t
  have hsrow := toNat_row_lt s
  have htrow := toNat_row_lt t
  apply ordering_ext
  · show _ ↔ (compare s.table t.table).then (compare s.row t.row) = .lt
    rw [Ordering.then_eq_lt, Std.compare_eq_lt, Std.compare_eq_lt, Std.compare_eq_lt,
      Std.compare_eq_iff_eq, UInt32.lt_iff_toNat_lt, UInt8.lt_iff_toNat_lt,
      UInt32.lt_iff_toNat_lt, ← UInt8.toNat_inj]
    -- rows are below 2^24, so they never make up for a smaller table
    omega
  · rw [compareLex_eq_eq]
    show _ ↔ compare s.table t.table = .eq ∧ compare s.row t.row = .eq
    rw [Std.compare_eq_iff_eq, Std.compare_eq_iff_eq, Std.compare_eq_iff_eq, ← eq_iff_table_row,
      Token.mk.injEq]

/-! ## §2. Method definitions. -/

/-- Method definitions are in their table, whatever the row. -/
theorem table_methodDef (row : UInt32) : (methodDef row).table = methodDefTable := by
  rw [← UInt8.toNat_inj, toNat_table, toNat_value_methodDef]
  omega

/-- A row is cut to 24 bits. -/
theorem toNat_row_methodDef (row : UInt32) : (methodDef row).row.toNat = row.toNat % 2 ^ 24 := by
  rw [toNat_row, toNat_value_methodDef]
  omega

/-- **Rows give the same method definition** exactly if they agree in 24 bits. -/
theorem methodDef_eq_iff (a b : UInt32) :
    methodDef a = methodDef b ↔ a.toNat % 2 ^ 24 = b.toNat % 2 ^ 24 := by
  rw [eq_iff_toNat_value, toNat_value_methodDef, toNat_value_methodDef]
  omega

example : methodDef 0x01000002 = methodDef 2 := by decide

/-- A method definition is never the null token. -/
theorem isNull_methodDef (row : UInt32) : (methodDef row).isNull = false := by
  apply beq_false_of_ne
  intro hnull
  -- the null token's table is another one
  have htable : methodDefTable = null.table := by rw [← hnull, table_methodDef]
  exact absurd htable (by decide)

/-! ## §3. Texts. -/

/-- Eight digits are enough for every token. -/
theorem toNat_value_lt_capacity (t : Token) : t.value.toNat < Hex.capacity 8 := t.value.toNat_lt

/-- **The text of a token** is `0x` and eight lowercase digits, which read back
to the number. -/
theorem display_digits (t : Token) :
    ∃ digits : List Char, t.display = "0x" ++ String.ofList digits ∧ digits.length = 8
      ∧ (∀ c ∈ digits, Hex.IsDigit c) ∧ Hex.read? digits = some t.value.toNat := by
  refine ⟨Hex.fixed 8 t.value.toNat, rfl, Hex.length_fixed 8 _, ?_, ?_⟩
  · intro c hc
    exact Hex.isDigit_of_mem_fixed hc
  · exact Hex.read?_fixed 8 _ t.toNat_value_lt_capacity

/-- Different tokens have different texts. -/
theorem display_inj {s t : Token} : s.display = t.display ↔ s = t := by
  rw [display, display, Hex.literal_inj s.toNat_value_lt_capacity t.toNat_value_lt_capacity,
    eq_iff_toNat_value]

theorem display_lt_iff {s t : Token} : s.display < t.display ↔ s.value < t.value := by
  rw [display, display,
    Hex.literal_lt_literal_iff s.toNat_value_lt_capacity t.toNat_value_lt_capacity,
    UInt32.lt_iff_toNat_lt]

/-- **The texts are ordered as the tokens.** -/
theorem compare_display (s t : Token) : compare s.display t.display = compare s t := by
  apply ordering_ext
  · show _ ↔ compare s.value t.value = .lt
    rw [compare_lt_iff_lt, display_lt_iff, Std.compare_eq_lt]
  · show _ ↔ compare s.value t.value = .eq
    rw [Std.compare_eq_iff_eq, display_inj, Std.compare_eq_iff_eq, Token.mk.injEq]

/-! ## §4. All of it. -/

/-- **The views of a token agree.**  Its number is put together from its table
and its row, which determine it and order tokens as their numbers do.  The
token of a method definition is in that table, its row is the given one in 24
bits, and it is not null.  The text of a token is `0x` and eight lowercase
digits that read back to the number; so different tokens have different texts,
and the texts are ordered as the tokens. -/
theorem views_agree :
    (∀ t : Token, t.value.toNat = t.table.toNat * 2 ^ 24 + t.row.toNat ∧ t.row.toNat < 2 ^ 24)
    ∧ (∀ s t : Token, (s = t ↔ s.table = t.table ∧ s.row = t.row)
        ∧ compare s.value t.value = compareLex (compareOn table) (compareOn row) s t)
    ∧ (∀ a b : UInt32, (methodDef a).table = 0x06 ∧ (methodDef a).row.toNat = a.toNat % 2 ^ 24
        ∧ (methodDef a = methodDef b ↔ a.toNat % 2 ^ 24 = b.toNat % 2 ^ 24)
        ∧ (methodDef a).isNull = false)
    ∧ (∀ t : Token, ∃ digits : List Char,
        t.display = "0x" ++ String.ofList digits ∧ digits.length = 8
        ∧ (∀ c ∈ digits, Hex.IsDigit c) ∧ Hex.read? digits = some t.value.toNat)
    ∧ (∀ s t : Token, (s.display = t.display ↔ s = t)
        ∧ compare s.display t.display = compare s t) := by
  refine ⟨?_, ?_, ?_, display_digits, ?_⟩
  · intro t
    exact ⟨value_eq_table_row t, toNat_row_lt t⟩
  · intro s t
    exact ⟨eq_iff_table_row, compare_table_row s t⟩
  · intro a b
    exact ⟨table_methodDef a, toNat_row_methodDef a, methodDef_eq_iff a b, isNull_methodDef a⟩
  · intro s t
    exact ⟨display_inj, compare_display s t⟩

end MethodListing.Token
