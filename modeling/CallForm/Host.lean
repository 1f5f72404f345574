import CallForm.Value

/-!
# What the program runs on

The program leaves some things to what it runs on.  The stack bounds how deep things may nest
that are handled by recursion.  Texts in YAML are read by a reader of which the program knows
only what it may give: a value, or the word that the text is malformed, or a failure of any
other kind.

A `Host` is one choice of all this.  The program takes it as a parameter.
-/

namespace CallForm

/-- Why a reader gives no value for a text. -/
inductive ReaderError where
  /-- The text is malformed, as the reader has it. -/
  | malformed
  /-- The reader fails in another way, with an error of the given kind. -/
  | other (kind message : String)
  deriving DecidableEq

/-- What a program runs on. -/
structure Host where
  /-- How deep the record of a tree may nest. -/
  recordDepth : Nat
  /-- How deep arrays and objects may nest in a text in JSON that is read. -/
  jsonDepth : Nat
  /-- How deep a value may nest that is shown. -/
  valueDepth : Nat
  /-- The value of a text in YAML. -/
  readYaml : String → Except ReaderError Value

end CallForm
