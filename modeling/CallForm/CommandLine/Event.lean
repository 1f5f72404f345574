import CallForm.CommandLine.Grammar

/-!
# What arguments say

`Grammar.events` reads the arguments of a command line from left to right as a list of
events: a flag is given, an option gets a value, an operand stands, an argument is taken
by nothing.  A misuse ends the list.

`Operands` says which operands the command line has: a single one, or one that takes
all arguments after it along.

The rules are those that the library for options had up to release 3.11.2.  Release 3.11.10
differs in two of them: two dashes that are attached to an option are its value, and a letter
that is attached to a flag and is no option is an argument that nothing takes.
-/

namespace CallForm.CommandLine

/-- What an argument, or several together, say. -/
inductive Event (α : Type) where
  | flag (o : α)
  | setting (o : α) (value : String)
  /-- An option is left without a value although something stands in its place. -/
  | emptied (o : α)
  | operand (text : String)
  /-- An operand with all arguments after it. -/
  | remainder (first : String) (rest : List String)
  /-- An argument that nothing takes. -/
  | stray (argument : String)
  | misuse (cause : Misuse)

/-- The operands that are still to come. -/
inductive Operands where
  | none
  | one
  /-- One that takes all arguments after it along. -/
  | remainder

namespace Grammar

variable {α : Type} [DecidableEq α] (g : Grammar α)

/-- What an option with the given value says.  The two dashes that end options do not
count as a value, even where they are written as one (up to release 3.11.2). -/
def settingEvent (o : α) (value : String) : Event α :=
  if value = "--" then .emptied o else .setting o value

/-- What an option says with the text attached to it, and the option, if any, that still
lacks its value.  Letters attached to a flag with one dash have to be options themselves (up to
release 3.11.2). -/
def attachedEvents (o : α) (oneDash : Bool) :
    List Char → Except Misuse (List (Event α) × Option α)
  | [] =>
    if g.takesValue o then .ok ([.setting o ""], none)
    else .error (.uselessValue (g.name o) "")
  | c :: cs =>
    let text := String.ofList (c :: cs)
    if g.takesValue o then .ok ([settingEvent o text], none)
    else if !oneDash then .error (.uselessValue (g.name o) text)
    else
      match g.spellings.lookup (String.ofList ['-', c]), cs with
      | none, _ => .error (.uselessValue (g.name o) text)
      | some next, [] =>
        .ok (if g.takesValue next then ([.flag o], some next) else ([.flag o, .flag next], none))
      | some next, d :: ds => do
        let (events, lacking) ← attachedEvents next true (d :: ds)
        return (.flag o :: events, lacking)

/-- What an option says within its argument, and the option, if any, that still lacks
its value. -/
def optionEvents (o : α) (oneDash : Bool) :
    Option (List Char) → Except Misuse (List (Event α) × Option α)
  | none => .ok (if g.takesValue o then ([], some o) else ([.flag o], none))
  | some text => g.attachedEvents o oneDash text

/-- What marked arguments say. -/
def eventsOf : Operands → List (String × Mark α) → List (Event α)
  | _, [] => []
  | .remainder, (argument, .operand) :: rest => [.remainder argument (rest.map (·.1))]
  | .remainder, (argument, .ender) :: rest =>
    if rest.isEmpty then [.stray argument] else [.remainder argument (rest.map (·.1))]
  | .one, (argument, .operand) :: (_, .ender) :: rest => .operand argument :: eventsOf .none rest
  | .one, (argument, .operand) :: rest => .operand argument :: eventsOf .none rest
  | .one, [(_, .ender)] => []
  | .one, (_, .ender) :: (argument, _) :: rest => .operand argument :: eventsOf .none rest
  | .none, (argument, .operand) :: rest => .stray argument :: eventsOf .none rest
  | .none, (argument, .ender) :: rest => .stray argument :: eventsOf .none rest
  | operands, (argument, .unknown) :: rest => .stray argument :: eventsOf operands rest
  | operands, (_, .option o oneDash attached) :: rest =>
    match g.optionEvents o oneDash attached, rest with
    | .error cause, _ => [.misuse cause]
    | .ok (events, none), rest => events ++ eventsOf operands rest
    | .ok (events, some lacking), (value, .operand) :: rest =>
      events ++ .setting lacking value :: eventsOf operands rest
    | .ok (_, some lacking), _ => [.misuse (.noValue (g.name lacking))]

/-- What the arguments of a command line say. -/
def events (operands : Operands) (arguments : List String) : List (Event α) :=
  match g.marks arguments with
  | .error cause => [.misuse cause]
  | .ok marked => g.eventsOf operands marked

end Grammar

end CallForm.CommandLine
