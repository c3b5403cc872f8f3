/-
  MethodListing.Debug.Scope — SCOPE TREES.

  A scope covers a span of code, declares locals, imports and constants, and
  holds further scopes.  The tree may have any shape: nothing ties the span
  of a scope to the spans inside it.
-/
import MethodListing.Debug.Declaration
import MethodListing.Debug.Span

namespace MethodListing

/-- A scope and everything declared inside it. -/
structure Scope where
  /-- The code it covers. -/
  span : ILSpan
  /-- The scopes inside. -/
  scopes : List Scope
  /-- The locals declared here. -/
  locals : List Local
  /-- The imports in force here. -/
  imports : List Import
  /-- The constants declared here. -/
  constants : List Constant

namespace Scope

/-- The scope over `span` that holds nothing. -/
def empty (span : ILSpan) : Scope := ⟨span, [], [], [], []⟩

instance : Inhabited Scope := ⟨empty default⟩

/-- **A leaf without declarations**: nothing is declared, nothing is nested. -/
def isLeaf (s : Scope) : Bool :=
  s.scopes.isEmpty && s.locals.isEmpty && s.imports.isEmpty && s.constants.isEmpty

mutual

/-- Equality of scopes: field by field, nested scopes in order. -/
def equal : Scope → Scope → Bool
  | ⟨span, scopes, locals, imports, constants⟩, ⟨span', scopes', locals', imports', constants'⟩ =>
      span == span' && equalAll scopes scopes' && locals == locals' && imports == imports'
        && constants == constants'

/-- Equality of lists of scopes, one by one. -/
def equalAll : List Scope → List Scope → Bool
  | [], [] => true
  | a :: as, b :: bs => equal a b && equalAll as bs
  | [], _ :: _ => false
  | _ :: _, [] => false

end

instance : BEq Scope := ⟨equal⟩

theorem beq_self_of_isLeaf {s : Scope} (h : s.isLeaf = true) : (s == s) = true := by
  obtain ⟨span, scopes, locals, imports, constants⟩ := s
  simp only [isLeaf, Bool.and_eq_true, List.isEmpty_iff] at h
  obtain ⟨⟨⟨hscopes, hlocals⟩, himports⟩, hconstants⟩ := h
  subst hscopes hlocals himports hconstants
  show equal _ _ = true
  simp [equal, equalAll]

end Scope

end MethodListing
