import CallForm.CommandLine.Misuse
import CallForm.Text.Decimal

/-!
# Options among arguments

A `Grammar` lists the spellings of options: one dash and a letter, or two dashes and a
word.  `Grammar.mark` tells whether an argument is an option or an operand, from the
argument alone.

An option with two dashes may be abbreviated as long as it stays the only one, and its
value may follow an equals sign.  After an option with one dash, its value or further
letters may follow at once.  Numbers below zero and arguments with a space are operands
unless they start with an option.
-/

namespace CallForm.CommandLine

/-- The options of a command line. -/
structure Grammar (α : Type) where
  /-- Each spelling with its option. -/
  spellings : List (String × α)
  /-- Whether an option takes a value. -/
  takesValue : α → Bool

/-- What an argument is. -/
inductive Mark (α : Type) where
  | operand
  /-- The two dashes after which every argument is an operand. -/
  | ender
  /-- An option, with one dash or with two, and the text attached to it: behind an equals
  sign, or right behind the letter of the option. -/
  | option (o : α) (oneDash : Bool) (attached : Option (List Char))
  | unknown

/-- The part of a text before the first equals sign, and the part after it if there is
one. -/
def atEquals (text : List Char) : List Char × Option (List Char) :=
  (text.takeWhile (· ≠ '='), (text.dropWhile (· ≠ '=')).tail?)

/-- Whether a text is a decimal number, with or without a fraction.  A line break may
stand at its end. -/
def isNumber (text : List Char) : Bool :=
  let whole := text.takeWhile Text.isDecimal
  match text.dropWhile Text.isDecimal with
  | [] | ['\n'] => !whole.isEmpty
  | '.' :: rest =>
    let fraction := rest.takeWhile Text.isDecimal
    let left := rest.dropWhile Text.isDecimal
    !fraction.isEmpty && (left = [] || left = ['\n'])
  | _ => false

/-- Whether an argument that is no option is an operand all the same. -/
def isOperandLike (argument : List Char) : Bool :=
  isNumber argument.tail || argument.contains ' '

namespace Grammar

variable {α : Type} (g : Grammar α)

/-- The name of an option: all its spellings. -/
def name [DecidableEq α] (o : α) : String :=
  "/".intercalate ((g.spellings.filter fun entry => entry.2 = o).map (·.1))

/-- The spellings that start with the given text. -/
def completions (start : List Char) : List (String × α) :=
  g.spellings.filter fun entry => start.isPrefixOf entry.1.toList

/-- The mark of an argument that starts with two dashes and is no spelling. -/
def markWord (argument : String) : Except Misuse (Mark α) :=
  let (word, attached) := atEquals argument.toList
  match g.completions word with
  | [] => .ok (if isOperandLike argument.toList then .operand else .unknown)
  | [(_, o)] => .ok (.option o false attached)
  | several => .error (.ambiguous argument (several.map (·.1)))

/-- The mark of an argument that starts with a dash and a letter and is no spelling. -/
def markLetter (argument : List Char) (letter : Char) (rest : List Char) : Mark α :=
  match g.spellings.lookup (String.ofList ['-', letter]) with
  | some o => .option o true (some rest)
  | none => if isOperandLike argument then .operand else .unknown

/-- Whether a spelling has a single dash. -/
def hasOneDash (spelling : List Char) : Bool :=
  spelling.tail.head? ≠ some '-'

/-- The mark of an argument that is not two dashes alone. -/
def mark (argument : String) : Except Misuse (Mark α) :=
  match argument.toList with
  | '-' :: second :: rest =>
    let (start, attached) := atEquals argument.toList
    match g.spellings.lookup (String.ofList start) with
    | some o => .ok (.option o (hasOneDash start) attached)
    | none =>
      if second = '-' then g.markWord argument
      else .ok (g.markLetter argument.toList second rest)
  | _ => .ok .operand

/-- The arguments with their marks.  A misuse in any of them counts before all that the
arguments say. -/
def marks : List String → Except Misuse (List (String × Mark α))
  | [] => .ok []
  | "--" :: rest => .ok (("--", .ender) :: rest.map fun argument => (argument, .operand))
  | argument :: rest => do
    let m ← g.mark argument
    let ms ← marks rest
    return (argument, m) :: ms

end Grammar

end CallForm.CommandLine
