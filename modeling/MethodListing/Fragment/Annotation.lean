/-
  MethodListing.Fragment.Annotation — WHAT CAN BE SAID ABOUT A PIECE OF TEXT.

  A piece of text may refer to something, with flags that tell how, and it
  has a style.  A plain listing ignores all of it; a viewer with links and
  colours does not.
-/
import MethodListing.FlagSet
import MethodListing.Token

namespace MethodListing

/-! ## §1. References. -/

/-- What a piece of text refers to. -/
inductive TextReference where
  /-- A metadata item. -/
  | token (token : Token)
  /-- A local variable or parameter, by name. -/
  | localName (name : String)
  /-- The label of a branch target, by code offset. -/
  | label (offset : UInt32)
  /-- An instruction, by code offset. -/
  | instruction (offset : UInt32)
  /-- A namespace, by full name. -/
  | namespaceName (name : String)
  deriving Repr, DecidableEq

/-- The names of the bits that qualify a reference. -/
def referenceFlagVocabulary : FlagVocabulary 32 where
  title := "ReferenceFlags"
  flags := [⟨"DEFINITION", 0x1⟩, ⟨"LOCAL", 0x2⟩, ⟨"HIDDEN", 0x4⟩, ⟨"NO_FOLLOW", 0x8⟩]

/-- How a piece of text relates to what it refers to. -/
abbrev ReferenceFlags := FlagSet referenceFlagVocabulary

/-! ## §2. Styles. -/

/-- What kind of text it is. -/
inductive TextStyle where
  | text
  | whitespace
  | punctuation
  | keyword
  | directive
  | opCode
  | number
  | string
  | char
  | comment
  | label
  | localVariable
  | parameter
  | namespaceName
  | type
  | method
  | field
  | property
  | event
  deriving Repr, DecidableEq

namespace TextStyle

instance : Inhabited TextStyle := ⟨text⟩

/-- All styles, in order. -/
def all : List TextStyle :=
  [.text, .whitespace, .punctuation, .keyword, .directive, .opCode, .number, .string, .char,
    .comment, .label, .localVariable, .parameter, .namespaceName, .type, .method, .field,
    .property, .event]

/-- The name of a style. -/
def name : TextStyle → String
  | .text => "Text"
  | .whitespace => "Whitespace"
  | .punctuation => "Punctuation"
  | .keyword => "Keyword"
  | .directive => "ILDirective"
  | .opCode => "OpCode"
  | .number => "Number"
  | .string => "String"
  | .char => "Char"
  | .comment => "Comment"
  | .label => "Label"
  | .localVariable => "Local"
  | .parameter => "Parameter"
  | .namespaceName => "Namespace"
  | .type => "Type"
  | .method => "Method"
  | .field => "Field"
  | .property => "Property"
  | .event => "Event"

/-- The style with a given name. -/
def ofName? (name : String) : Option TextStyle := all.find? (·.name == name)

end TextStyle

end MethodListing
