/-
  MethodListing.Attachment — DATA BESIDE THE TEXT.

  A producer attaches data to a listing next to the text it writes.  Four
  kinds are predefined, each with an id; anything else travels with an id of
  its own.  A plain listing takes debug records only.
-/
import MethodListing.Debug.Record
import MethodListing.Fragment.Annotation

namespace MethodListing

/-! ## §1. Predefined kinds. -/

/-- The predefined kinds of attachments. -/
inductive AttachmentKind where
  /-- The debug record of a method. -/
  | debugRecord
  /-- A reference over a piece of the text. -/
  | spanReference
  /-- Two matching braces. -/
  | bracePair
  /-- A separator between members. -/
  | lineSeparator
  deriving Repr, DecidableEq

namespace AttachmentKind

/-- All kinds, in order. -/
def all : List AttachmentKind := [.debugRecord, .spanReference, .bracePair, .lineSeparator]

/-- The id of a kind. -/
def id : AttachmentKind → String
  | .debugRecord => "DebugInfo"
  | .spanReference => "SpanReference"
  | .bracePair => "CodeBracesRange"
  | .lineSeparator => "LineSeparator"

/-- The kind with a given id. -/
def ofId? (id : String) : Option AttachmentKind := all.find? (·.id == id)

/-- What is said of an id that no kind has. -/
def unknownIdMessage : String := "Matching variant not found"

@[simp] theorem ofId?_id (kind : AttachmentKind) : ofId? kind.id = some kind := by
  cases kind <;> rfl

end AttachmentKind

/-! ## §2. Attachments. -/

/-- Data beside the text. -/
inductive Attachment where
  /-- The debug record of a method. -/
  | debugRecord (record : DebugRecord)
  /-- What a piece of the text refers to. -/
  | spanReference (span : TextSpan) (reference : TextReference)
  /-- Two matching braces, with the producer's flags for their kind. -/
  | bracePair (left right : TextSpan) (flags : UInt32)
  /-- The position of a separator between members. -/
  | lineSeparator (position : UInt64)
  /-- Data of a kind that is not predefined. -/
  | other (id : String)

namespace Attachment

/-- The predefined kind, if it is of one. -/
def kind? : Attachment → Option AttachmentKind
  | .debugRecord _ => some .debugRecord
  | .spanReference _ _ => some .spanReference
  | .bracePair _ _ _ => some .bracePair
  | .lineSeparator _ => some .lineSeparator
  | .other _ => none

/-- **The id**: that of the kind, or the attachment's own. -/
def id : Attachment → String
  | .debugRecord _ => AttachmentKind.debugRecord.id
  | .spanReference _ _ => AttachmentKind.spanReference.id
  | .bracePair _ _ _ => AttachmentKind.bracePair.id
  | .lineSeparator _ => AttachmentKind.lineSeparator.id
  | .other id => id

/-- Equality of attachments: field by field. -/
def equal : Attachment → Attachment → Bool
  | .debugRecord a, .debugRecord b => a == b
  | .spanReference span reference, .spanReference span' reference' =>
      span == span' && reference == reference'
  | .bracePair left right flags, .bracePair left' right' flags' =>
      left == left' && right == right' && flags == flags'
  | .lineSeparator a, .lineSeparator b => a == b
  | .other a, .other b => a == b
  | _, _ => false

instance : BEq Attachment := ⟨equal⟩

theorem id_eq_of_beq {a b : Attachment} (h : (a == b) = true) : a.id = b.id := by
  cases a <;> cases b <;> first | rfl | cases h | exact eq_of_beq h

end Attachment

end MethodListing
