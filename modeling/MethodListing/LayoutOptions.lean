/-
  MethodListing.LayoutOptions — HOW LINES ARE LAID OUT.

  Two things about a listing's text can be chosen: what one level of
  indentation is made of, and what ends a line.
-/

namespace MethodListing

/-- What ends a line. -/
inductive LineEnding where
  /-- A line feed. -/
  | lf
  /-- A carriage return and a line feed. -/
  | crlf
  deriving Repr, DecidableEq

/-- The characters that end a line. -/
def LineEnding.text : LineEnding → String
  | .lf => "\n"
  | .crlf => "\r\n"

/-- The layout of a listing's text. -/
structure LayoutOptions where
  /-- What one level of indentation is made of. -/
  indentUnit : String
  /-- What ends a line. -/
  lineEnding : LineEnding
  deriving Repr, DecidableEq

namespace LayoutOptions

/-- Four spaces a level, and lines that end in a line feed. -/
instance : Inhabited LayoutOptions := ⟨⟨"    ", .lf⟩⟩

/-- The indentation of a line at some level. -/
def indentation (options : LayoutOptions) (level : Nat) : String :=
  String.join (List.replicate level options.indentUnit)

@[simp] theorem indentation_zero (options : LayoutOptions) : options.indentation 0 = "" := rfl

@[simp] theorem indentation_succ (options : LayoutOptions) (level : Nat) :
    options.indentation (level + 1) = options.indentUnit ++ options.indentation level := by
  simp [indentation, List.replicate_succ, String.join_cons]

/-- The indentation of two levels together is one behind the other. -/
theorem indentation_add (options : LayoutOptions) (level more : Nat) :
    options.indentation (level + more)
      = options.indentation level ++ options.indentation more := by
  induction level with
  | zero => simp
  | succ level ih => rw [Nat.succ_add, indentation_succ, indentation_succ, ih, String.append_assoc]

/-- **The indentation takes** as many bytes as the unit does, level times. -/
theorem utf8ByteSize_indentation (options : LayoutOptions) (level : Nat) :
    (options.indentation level).utf8ByteSize = level * options.indentUnit.utf8ByteSize := by
  induction level with
  | zero => simp
  | succ level ih => rw [indentation_succ, String.utf8ByteSize_append, ih, Nat.succ_mul]; omega

end LayoutOptions

end MethodListing
