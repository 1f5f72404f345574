import CallForm.Text.Quoted

/-!
# Misuse of the command line

`Misuse` lists what can be wrong with the arguments of a command line, and
`Misuse.message` words it.
-/

namespace CallForm.CommandLine

/-- What is wrong with the arguments. -/
inductive Misuse where
  /-- An argument abbreviates several options. -/
  | ambiguous (argument : String) (spellings : List String)
  /-- An option without its value. -/
  | noValue (option : String)
  /-- An option with a value that it does not take. -/
  | uselessValue (option value : String)
  /-- A value other than those to choose from. -/
  | invalidChoice (option value : String) (choices : List String)
  /-- Arguments that nothing takes. -/
  | strays (arguments : List String)
  deriving DecidableEq

/-- The message about a misuse. -/
def Misuse.message : Misuse → String
  | ambiguous argument spellings =>
    "ambiguous option: " ++ argument ++ " could match " ++ ", ".intercalate spellings
  | noValue option => "argument " ++ option ++ ": expected one argument"
  | uselessValue option value =>
    "argument " ++ option ++ ": ignored explicit argument " ++ Text.quoted value
  | invalidChoice option value choices =>
    "argument " ++ option ++ ": invalid choice: " ++ Text.quoted value ++ " (choose from " ++
      ", ".intercalate (choices.map fun choice : String => Text.quoted choice) ++ ")"
  | strays arguments => "unrecognized arguments: " ++ " ".intercalate arguments

end CallForm.CommandLine
