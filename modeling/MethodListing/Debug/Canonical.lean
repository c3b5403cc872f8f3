/-
  MethodListing.Debug.Canonical — EQUALITY OF RECORDS, SAID WITHOUT COMPARING.

  Records are compared field by field, with floating-point constants compared
  as numbers.  That differs from being identical in two points only: a NaN is
  not even equal to itself, and the two zeros are equal.  Both points can be
  said of one record at a time: `hasNaN` tells whether a NaN occurs anywhere
  in it, and `canonical` makes every negative zero positive.

  Main results:
    * `Binary64.numericEq_iff` — two numbers are equal exactly if neither is a
      NaN and their canonical forms are identical;
    * `Scope.hasNaN_iff`       — a tree has a NaN exactly if some scope in it,
      at whatever depth, declares one.
-/
import MethodListing.Attachment

namespace MethodListing

/-! ## §1. Numbers. -/

/-- The same number, with zero always positive. -/
def Binary64.canonical (x : Binary64) : Binary64 := if x.isZero then ⟨0⟩ else x

namespace Binary64

theorem canonical_of_isZero {x : Binary64} (h : x.isZero = true) : x.canonical = ⟨0⟩ := if_pos h

theorem canonical_of_not_isZero {x : Binary64} (h : x.isZero = false) : x.canonical = x :=
  if_neg (Bool.eq_false_iff.1 h)

theorem isZero_canonical (x : Binary64) : x.canonical.isZero = x.isZero := by
  cases h : x.isZero with
  | true =>
    rw [canonical_of_isZero h]
    rfl
  | false => rw [canonical_of_not_isZero h, h]

theorem canonical_eq_iff (x y : Binary64) :
    x.canonical = y.canonical ↔ x = y ∨ x.isZero = true ∧ y.isZero = true := by
  constructor
  · intro h
    have hzero : x.isZero = y.isZero := by rw [← isZero_canonical x, h, isZero_canonical]
    cases hx : x.isZero with
    | true => exact .inr ⟨rfl, hzero ▸ hx⟩
    | false =>
      rw [canonical_of_not_isZero hx, canonical_of_not_isZero (hzero ▸ hx)] at h
      exact .inl h
  · rintro (rfl | ⟨hx, hy⟩)
    · rfl
    · rw [canonical_of_isZero hx, canonical_of_isZero hy]

theorem numericEq_iff (x y : Binary64) :
    x.numericEq y = true ↔
      x.isNaN = false ∧ y.isNaN = false ∧ x.canonical = y.canonical := by
  have hbits : x.bits = y.bits ↔ x = y := by rw [Binary64.mk.injEq]
  simp only [numericEq, Bool.and_eq_true, Bool.or_eq_true, Bool.not_eq_true', beq_iff_eq, hbits,
    and_assoc, canonical_eq_iff]

end Binary64

/-! ## §2. Constants. -/

/-- Whether the value is a NaN. -/
def ConstantValue.hasNaN : ConstantValue → Bool
  | .float x => x.isNaN
  | _ => false

/-- The same value, with zero always positive. -/
def ConstantValue.canonical : ConstantValue → ConstantValue
  | .float x => .float x.canonical
  | value => value

/-- Whether the constant is a NaN. -/
def Constant.hasNaN (c : Constant) : Bool := c.value.hasNaN

/-- The same constant, with zero always positive. -/
def Constant.canonical (c : Constant) : Constant := { c with value := c.value.canonical }

/-! ## §3. Scopes, at every depth. -/

namespace Scope

/-- **A scope within another**: the other itself, or within one of the scopes
nested in it. -/
inductive Within (t : Scope) : Scope → Prop where
  | self : Within t t
  | nested {s u : Scope} (hmem : u ∈ s.scopes) (h : Within t u) : Within t s

mutual

/-- Whether a NaN occurs anywhere in the tree. -/
def hasNaN : Scope → Bool
  | ⟨_, scopes, _, _, constants⟩ => anyNaN scopes || constants.any Constant.hasNaN

/-- Whether a NaN occurs in one of several trees. -/
def anyNaN : List Scope → Bool
  | [] => false
  | s :: rest => hasNaN s || anyNaN rest

end

mutual

/-- The same tree, with zero always positive. -/
def canonical : Scope → Scope
  | ⟨span, scopes, locals, imports, constants⟩ =>
      ⟨span, canonicalAll scopes, locals, imports, constants.map Constant.canonical⟩

/-- The same trees, with zero always positive. -/
def canonicalAll : List Scope → List Scope
  | [] => []
  | s :: rest => canonical s :: canonicalAll rest

end

/-- Whether a constant declared in the scope itself is a NaN. -/
def declaresNaN (s : Scope) : Bool := s.constants.any Constant.hasNaN

theorem declaresNaN_iff (s : Scope) :
    s.declaresNaN = true
      ↔ ∃ c ∈ s.constants, ∃ x, c.value = .float x ∧ x.isNaN = true := by
  have hconstant : ∀ c : Constant,
      c.hasNaN = true ↔ ∃ x, c.value = .float x ∧ x.isNaN = true := by
    intro c
    obtain ⟨name, value⟩ := c
    cases value <;> simp [Constant.hasNaN, ConstantValue.hasNaN]
  simp only [declaresNaN, List.any_eq_true, hconstant]

theorem anyNaN_iff (ss : List Scope) : anyNaN ss = true ↔ ∃ s ∈ ss, s.hasNaN = true := by
  induction ss with
  | nil => simp [anyNaN]
  | cons s rest ih => simp [anyNaN, ih]

theorem hasNaN_eq (s : Scope) : s.hasNaN = (anyNaN s.scopes || s.declaresNaN) := by
  obtain ⟨span, scopes, locals, imports, constants⟩ := s
  rfl

mutual

theorem exists_within_of_hasNaN :
    ∀ s : Scope, s.hasNaN = true → ∃ t : Scope, t.Within s ∧ t.declaresNaN = true
  | ⟨span, scopes, locals, imports, constants⟩ => by
      intro h
      rw [hasNaN_eq, Bool.or_eq_true] at h
      cases h with
      | inl hnested =>
          obtain ⟨u, hmem, t, ht, hnan⟩ := exists_within_of_anyNaN scopes hnested
          exact ⟨t, .nested hmem ht, hnan⟩
      | inr hself => exact ⟨_, .self, hself⟩

theorem exists_within_of_anyNaN :
    ∀ ss : List Scope, anyNaN ss = true →
      ∃ u ∈ ss, ∃ t : Scope, t.Within u ∧ t.declaresNaN = true
  | [] => by
      intro h
      cases h
  | s :: rest => by
      intro h
      rw [anyNaN, Bool.or_eq_true] at h
      cases h with
      | inl hhead => exact ⟨s, List.mem_cons_self, exists_within_of_hasNaN s hhead⟩
      | inr hrest =>
          obtain ⟨u, hmem, hu⟩ := exists_within_of_anyNaN rest hrest
          exact ⟨u, List.mem_cons_of_mem s hmem, hu⟩

end

/-- **A tree has a NaN exactly if some scope in it declares one**, at whatever
depth. -/
theorem hasNaN_iff (s : Scope) :
    s.hasNaN = true ↔ ∃ t : Scope, t.Within s ∧
      ∃ c ∈ t.constants, ∃ x, c.value = .float x ∧ x.isNaN = true := by
  simp only [← declaresNaN_iff]
  constructor
  · exact exists_within_of_hasNaN s
  · rintro ⟨t, hwithin, hnan⟩
    induction hwithin with
    | self => rw [hasNaN_eq, hnan, Bool.or_true]
    | nested hmem _ ih => rw [hasNaN_eq, (anyNaN_iff _).2 ⟨_, hmem, ih⟩, Bool.true_or]

end Scope

/-! ## §4. Records and attachments. -/

/-- Whether a NaN occurs anywhere in the record. -/
def DebugRecord.hasNaN (r : DebugRecord) : Bool := r.scope.hasNaN

/-- The same record, with zero always positive. -/
def DebugRecord.canonical (r : DebugRecord) : DebugRecord := { r with scope := r.scope.canonical }

/-- Whether a NaN occurs anywhere in the attachment. -/
def Attachment.hasNaN : Attachment → Bool
  | .debugRecord r => r.hasNaN
  | _ => false

/-- The same attachment, with zero always positive. -/
def Attachment.canonical : Attachment → Attachment
  | .debugRecord r => .debugRecord r.canonical
  | data => data

end MethodListing
