/-
  MethodListing.Proofs.RecordEquality — WHEN TWO RECORDS ARE EQUAL.

  Records are compared field by field, and scopes with everything nested in
  them.  The outcome is almost that of asking whether they are identical.  It
  differs in the two points in which comparing floating-point numbers does: a
  NaN, at whatever depth, makes a record unequal to all records, and the two
  zeros are not told apart.

  That is one statement about one type after the other, from the numbers up:
  equal means that neither has a NaN and that the canonical forms, in which
  each negative zero is made positive, are identical.  Where it holds, equality
  is symmetric and transitive, and reflexive off the NaNs.

  Main results:
    * `ExactUpToZeros.of_beq_iff` — the laws of equality, from when it holds;
    * `Scope.beq_iff_canonical`             — two trees, compared at every depth;
    * `beq_exactUpToZeros`        — records, scopes and attachments.
-/
import MethodListing.Debug.Canonical
import MethodListing.Proofs.NumericComparison

namespace MethodListing

/-! ## §1. Equality up to NaNs and zeros. -/

/-- **Equality that is exact up to NaNs and zeros**: two values are equal if
neither has a NaN and their canonical forms are identical.  So equality is
symmetric and transitive, and a value is equal to itself unless it has a
NaN. -/
structure ExactUpToZeros {α : Type} [BEq α] (hasNaN : α → Bool) (canonical : α → α) : Prop where
  beq_iff : ∀ a b : α,
    (a == b) = true ↔ hasNaN a = false ∧ hasNaN b = false ∧ canonical a = canonical b
  symm : ∀ a b : α, (a == b) = (b == a)
  trans : ∀ a b c : α, (a == b) = true → (b == c) = true → (a == c) = true
  beq_self_iff : ∀ a : α, (a == a) = true ↔ hasNaN a = false

/-- The laws of equality follow from when it holds. -/
theorem ExactUpToZeros.of_beq_iff {α : Type} [BEq α] {hasNaN : α → Bool} {canonical : α → α}
    (h : ∀ a b : α,
      (a == b) = true ↔ hasNaN a = false ∧ hasNaN b = false ∧ canonical a = canonical b) :
    ExactUpToZeros hasNaN canonical where
  beq_iff := h
  symm := by
    intro a b
    rw [Bool.eq_iff_iff, h, h]
    constructor
    · rintro ⟨ha, hb, hab⟩
      exact ⟨hb, ha, hab.symm⟩
    · rintro ⟨hb, ha, hba⟩
      exact ⟨ha, hb, hba.symm⟩
  trans := by
    intro a b c hab hbc
    obtain ⟨ha, -, hab⟩ := (h a b).1 hab
    obtain ⟨-, hc, hbc⟩ := (h b c).1 hbc
    exact (h a c).2 ⟨ha, hc, hab.trans hbc⟩
  beq_self_iff := by
    intro a
    rw [h]
    exact ⟨fun ha => ha.1, fun ha => ⟨ha, ha, rfl⟩⟩

/-- **Two parts, compared one after the other.**  With `n` and `m` for the
NaNs on either side, and `c` for the canonical forms being identical: what
holds of each part holds of both together. -/
theorem beq_and_iff {e e' n n' m m' : Bool} {c c' : Prop}
    (h : e = true ↔ n = false ∧ m = false ∧ c) (h' : e' = true ↔ n' = false ∧ m' = false ∧ c') :
    (e && e') = true ↔ (n || n') = false ∧ (m || m') = false ∧ c ∧ c' := by
  rw [Bool.and_eq_true, h, h', Bool.or_eq_false_iff, Bool.or_eq_false_iff]
  constructor
  · rintro ⟨⟨hn, hm, hc⟩, hn', hm', hc'⟩
    exact ⟨⟨hn, hn'⟩, ⟨hm, hm'⟩, hc, hc'⟩
  · rintro ⟨⟨hn, hn'⟩, ⟨hm, hm'⟩, hc, hc'⟩
    exact ⟨⟨hn, hm, hc⟩, hn', hm', hc'⟩

/-! ## §2. Numbers and constants. -/

/-- The only number whose canonical form has other bits is the negative zero. -/
theorem Binary64.canonical_eq (x : Binary64) :
    x.canonical = if x.bits = 0x8000000000000000 then ⟨0⟩ else x := by
  have hbits : x.bits.toNat < 0x10000000000000000 := x.bits.toNat_lt
  have hzero : x.isZero = true ↔ x.bits = 0x8000000000000000 ∨ x.bits = 0 := by
    rw [isZero, magnitude, beq_iff_eq, ← UInt64.toNat_inj, ← UInt64.toNat_inj]
    show x.bits.toNat % 0x8000000000000000 = 0
      ↔ x.bits.toNat = 0x8000000000000000 ∨ x.bits.toNat = 0
    omega
  unfold canonical
  by_cases hnegative : x.bits = 0x8000000000000000
  · rw [if_pos (hzero.2 (.inl hnegative)), if_pos hnegative]
  · rw [if_neg hnegative]
    split
    case isTrue h =>
      have hpositive : x.bits = 0 := (hzero.1 h).resolve_left hnegative
      exact congrArg Binary64.mk hpositive.symm
    case isFalse => rfl

theorem ConstantValue.beq_iff_canonical (a b : ConstantValue) :
    (a == b) = true ↔ a.hasNaN = false ∧ b.hasNaN = false ∧ a.canonical = b.canonical := by
  show a.equal b = true ↔ _
  cases a <;> cases b
  case float.float x y =>
    show x.numericEq y = true
      ↔ x.isNaN = false ∧ y.isNaN = false ∧ ConstantValue.float _ = .float _
    rw [Binary64.numericEq_iff, ConstantValue.float.injEq]
  all_goals simp [ConstantValue.equal, ConstantValue.hasNaN, ConstantValue.canonical]

theorem Constant.beq_iff_canonical (a b : Constant) :
    (a == b) = true ↔ a.hasNaN = false ∧ b.hasNaN = false ∧ a.canonical = b.canonical := by
  obtain ⟨name, value⟩ := a
  obtain ⟨name', value'⟩ := b
  have hname : (name == name') = true ↔ false = false ∧ false = false ∧ name = name' := by simp
  rw [Constant.canonical, Constant.canonical, Constant.mk.injEq]
  exact beq_and_iff hname (ConstantValue.beq_iff_canonical value value')

/-- Lists of constants are equal if the constants are, one by one. -/
theorem Constant.list_beq_iff_canonical (as bs : List Constant) :
    (as == bs) = true ↔ as.any hasNaN = false ∧ bs.any hasNaN = false
      ∧ as.map canonical = bs.map canonical := by
  induction as generalizing bs with
  | nil => cases bs <;> simp
  | cons a as ih =>
      cases bs with
      | nil => simp
      | cons b bs =>
          rw [List.cons_beq_cons, List.any_cons, List.any_cons, List.map_cons, List.map_cons,
            List.cons.injEq]
          exact beq_and_iff (Constant.beq_iff_canonical a b) (ih bs)

/-! ## §3. Scopes, at every depth. -/

namespace Scope

-- over both trees at once: a scope by its fields, a list of scopes by its head
mutual

theorem beq_iff_canonical : ∀ s t : Scope,
    (s == t) = true ↔ s.hasNaN = false ∧ t.hasNaN = false ∧ s.canonical = t.canonical
  | ⟨span, scopes, locals, imports, constants⟩,
    ⟨span', scopes', locals', imports', constants'⟩ => by
      -- only the nested scopes and the constants are not compared for identity
      have hparts := beq_and_iff (equalAll_iff_canonical scopes scopes')
        (Constant.list_beq_iff_canonical constants constants')
      rw [Bool.and_eq_true] at hparts
      show (span == span' && equalAll scopes scopes' && locals == locals' && imports == imports'
          && constants == constants') = true
        ↔ (anyNaN scopes || constants.any Constant.hasNaN) = false
          ∧ (anyNaN scopes' || constants'.any Constant.hasNaN) = false
          ∧ Scope.mk _ _ _ _ _ = .mk _ _ _ _ _
      simp only [Bool.and_eq_true, beq_iff_eq, Scope.mk.injEq]
      grind

theorem equalAll_iff_canonical : ∀ ss ts : List Scope,
    equalAll ss ts = true ↔ anyNaN ss = false ∧ anyNaN ts = false
      ∧ canonicalAll ss = canonicalAll ts
  | [], [] => by simp [equalAll, anyNaN, canonicalAll]
  | [], _ :: _ => by simp [equalAll, canonicalAll]
  | _ :: _, [] => by simp [equalAll, canonicalAll]
  | s :: ss, t :: ts => by
      rw [anyNaN, anyNaN, canonicalAll, canonicalAll, List.cons.injEq]
      exact beq_and_iff (beq_iff_canonical s t) (equalAll_iff_canonical ss ts)

end

end Scope

/-! ## §4. Records and attachments. -/

theorem DebugRecord.beq_iff_canonical (a b : DebugRecord) :
    (a == b) = true ↔ a.hasNaN = false ∧ b.hasNaN = false ∧ a.canonical = b.canonical := by
  rw [DebugRecord.beq_iff, Scope.beq_iff_canonical]
  obtain ⟨compilerName, settingsVersion, kind, method, kickoff, parameters, statements, scope,
    methodSpan, awaitPoints⟩ := a
  obtain ⟨compilerName', settingsVersion', kind', method', kickoff', parameters', statements',
    scope', methodSpan', awaitPoints'⟩ := b
  simp only [hasNaN, canonical, mk.injEq, true_and]
  grind

theorem Attachment.beq_iff_canonical (a b : Attachment) :
    (a == b) = true ↔ a.hasNaN = false ∧ b.hasNaN = false ∧ a.canonical = b.canonical := by
  show a.equal b = true ↔ _
  cases a <;> cases b
  case debugRecord.debugRecord r r' =>
    show (r == r') = true
      ↔ r.hasNaN = false ∧ r'.hasNaN = false ∧ Attachment.debugRecord _ = .debugRecord _
    rw [DebugRecord.beq_iff_canonical, Attachment.debugRecord.injEq]
  all_goals simp [equal, hasNaN, canonical, and_assoc]

/-- **Equality of records is exact up to NaNs and zeros**, and so is that of
scopes and of attachments.  Bits are compared as the floats they stand for; a
NaN is one for the float too; canonical form replaces the negative zero and
nothing else; and a NaN is looked for in every scope of the tree. -/
theorem beq_exactUpToZeros :
    (∀ x y : Binary64, (x == y) = (Float.ofBits x.bits == Float.ofBits y.bits))
    ∧ (∀ x : Binary64, x.isNaN = (Float.ofBits x.bits).isNaN)
    ∧ (∀ x : Binary64, x.canonical = if x.bits = 0x8000000000000000 then ⟨0⟩ else x)
    ∧ (∀ s : Scope, s.hasNaN = true ↔ ∃ t : Scope, t.Within s ∧
        ∃ c ∈ t.constants, ∃ x, c.value = .float x ∧ x.isNaN = true)
    ∧ ExactUpToZeros DebugRecord.hasNaN DebugRecord.canonical
    ∧ ExactUpToZeros Scope.hasNaN Scope.canonical
    ∧ ExactUpToZeros Attachment.hasNaN Attachment.canonical := by
  have hrecord : ExactUpToZeros DebugRecord.hasNaN DebugRecord.canonical :=
    .of_beq_iff DebugRecord.beq_iff_canonical
  have hscope : ExactUpToZeros Scope.hasNaN Scope.canonical :=
    .of_beq_iff Scope.beq_iff_canonical
  have hattachment : ExactUpToZeros Attachment.hasNaN Attachment.canonical :=
    .of_beq_iff Attachment.beq_iff_canonical
  exact ⟨Binary64.numericEq_eq_beq, Binary64.isNaN_eq, Binary64.canonical_eq, Scope.hasNaN_iff,
    hrecord, hscope, hattachment⟩

/-- Three scopes, one in the other, with a constant in the innermost. -/
def threeDeep (value : Binary64) : Scope :=
  ⟨⟨0, 9⟩, [⟨⟨1, 8⟩, [⟨⟨2, 3⟩, [], [], [], [⟨"limit", .float value⟩]⟩], [], [], []⟩], [], [], []⟩

example : (threeDeep ⟨0⟩ == threeDeep ⟨0x8000000000000000⟩) = true := by decide +kernel

example : (threeDeep ⟨0x7FF8000000000000⟩ == threeDeep ⟨0x7FF8000000000000⟩) = false := by
  decide +kernel

end MethodListing
