/-
Options on the command line.

A long option has two dashes and may have its value behind an equals sign; short ones have one
dash and a letter, can be written together, and a value may follow the letter directly.
Otherwise the value of an option is the next argument, whatever it looks like.  Behind two
dashes alone there are no options.
-/
import RetrievalTelemetry.Text.Numeral

namespace RetrievalTelemetry.CommandLine

/-- An option that can be given. -/
structure OptionForm where
  /-- Its names with their dashes; the first one is what it is known by. -/
  names : List String
  takesValue : Bool := false

/-- What was given: options by name with their values, in order, and the other arguments. -/
structure Given where
  options : List (String × String) := []
  words : List String := []

namespace Given

/-- Whether an option was given. -/
def has (g : Given) (name : String) : Bool := g.options.any fun o => o.1 == name

/-- The last value that was given for an option. -/
def value? (g : Given) (name : String) : Option String := g.options.reverse.lookup name

end Given

def findForm? (forms : List OptionForm) (name : String) : Option OptionForm :=
  forms.find? fun form => form.names.contains name

/-- What a form is known by. -/
def OptionForm.key (form : OptionForm) : String := form.names.headD ""

/-- Reads short options written together, with the arguments that follow; answers the options and the
arguments that are left. -/
def readShort (forms : List OptionForm) :
    (letters : List Char) → (next : List String) → Option (List (String × String) × List String)
  | [], next => some ([], next)
  | letter :: more, next => do
    let form ← findForm? forms (String.ofList ['-', letter])
    if form.takesValue then
      if more.isEmpty then
        match next with
        | [] => none
        | value :: next => some ([(form.key, value)], next)
      else some ([(form.key, String.ofList more)], next)
    else
      let (options, next) ← readShort forms more next
      some ((form.key, "") :: options, next)

/-- Reads a long option, with the arguments that follow. -/
def readLong (forms : List OptionForm) (argument : String) (next : List String) :
    Option (List (String × String) × List String) := do
  let cs := argument.toList
  let name := cs.takeWhile (· ≠ '=')
  let form ← findForm? forms (String.ofList name)
  match form.takesValue, cs.drop name.length, next with
  | true, _ :: value, next => some ([(form.key, String.ofList value)], next)
  | true, [], value :: next => some ([(form.key, value)], next)
  | true, [], [] => none
  | false, [], next => some ([(form.key, "")], next)
  | false, _ :: _, _ => none

/-- Reads arguments; nothing if an option is not known, lacks its value or has one that it does not take.
With `stops`, the first argument that is no option ends the options. -/
def readArguments (forms : List OptionForm) (stops : Bool) : (fuel : Nat) → List String → Option Given
  | 0, words => some { words := words }
  | _, [] => some {}
  | fuel + 1, argument :: next =>
    let onwards (read : List (String × String) × List String) : Option Given :=
      (readArguments forms stops fuel read.2).map fun g => { g with options := read.1 ++ g.options }
    match argument.toList with
    | ['-', '-'] => some { words := next }
    | '-' :: '-' :: _ => (readLong forms argument next).bind onwards
    | '-' :: letter :: letters => (readShort forms (letter :: letters) next).bind onwards
    | _ =>
      if stops then some { words := argument :: next }
      else (readArguments forms stops fuel next).map fun g => { g with words := argument :: g.words }

/-- Reads all arguments. -/
def given? (forms : List OptionForm) (stops : Bool) (arguments : List String) : Option Given :=
  readArguments forms stops (arguments.length + 1) arguments

end RetrievalTelemetry.CommandLine
