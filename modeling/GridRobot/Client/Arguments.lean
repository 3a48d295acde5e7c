/-!
# Command-line arguments

The command line names an action, `check` or `run`, and may give the command as text. Two
flags may stand before or after the action, each at most once on each side of it. After `--`
nothing is a flag. Arguments are read from left to right, and the first that asks for help or
for the version, or that has no meaning where it stands, decides.

* `Action`, `Request`: what is asked for;
* `Arguments`, `Arguments.read`.
-/

namespace GridRobot

/-- What is to be done with a command. -/
inductive Action
  | check
  | run
  deriving DecidableEq

/-- The flags that have been seen. -/
structure Flags where
  json : Bool := false
  showPath : Bool := false
  deriving DecidableEq

/-- What is asked for. -/
structure Request where
  action : Action
  input : Option String
  flags : Flags
  deriving DecidableEq

/-- The meaning of the arguments. -/
inductive Arguments
  | request (request : Request)
  | version
  | help
  | misuse
  deriving DecidableEq

namespace Flags

/-- What is set on either side. -/
def or (f g : Flags) : Flags := ⟨f.json || g.json, f.showPath || g.showPath⟩

/-- Sees one more flag, which must be known and new. -/
def add? (f : Flags) (argument : String) : Option Flags :=
  if argument = "--json" then
    if f.json then none else some { f with json := true }
  else if argument = "--show-path" then
    if f.showPath then none else some { f with showPath := true }
  else none

end Flags

namespace Arguments

/-- Whether an argument is a group of one-letter flags that begins with the given letter. -/
def startsGroup (letter : Char) (argument : String) : Bool :=
  ['-', letter].isPrefixOf argument.toList

/-- Whether an argument asks for help. -/
def asksHelp (argument : String) : Bool := argument == "--help" || startsGroup 'h' argument

/-- Whether an argument asks for the version. -/
def asksVersion (argument : String) : Bool := argument == "--version" || startsGroup 'V' argument

/-- The topics of the help: the actions, and the help itself. -/
def topics : List String := ["check", "run", "help"]

/-- The arguments after `help`: at most one topic. -/
def readTopic : List String → Arguments
  | [] => .help
  | [topic] => if topics.contains topic then .help else .misuse
  | _ => .misuse

/-- Whether an argument can only be a flag. A single dash is no flag. -/
def isFlag (argument : String) : Bool :=
  argument.toList.head? == some '-' && argument.length ≠ 1

/-- The arguments after `--`. -/
def readPlain (r : Request) : List String → Arguments
  | [] => .request r
  | [text] => if r.input.isNone then .request { r with input := some text } else .misuse
  | _ => .misuse

/-- The arguments after the action. The flags before it are `outer`, those after it `own`. -/
def readAfter (action : Action) (outer own : Flags) (input : Option String) :
    List String → Arguments
  | [] => .request ⟨action, input, outer.or own⟩
  | argument :: rest =>
    if argument = "--" then readPlain ⟨action, input, outer.or own⟩ rest
    else if asksHelp argument then .help
    else if isFlag argument then
      match own.add? argument with
      | some own => readAfter action outer own input rest
      | none => .misuse
    else if input.isNone then readAfter action outer own (some argument) rest
    else .misuse

/-- The arguments from the beginning. -/
def readBefore (outer : Flags) : List String → Arguments
  | [] => .misuse
  | argument :: rest =>
    if argument = "check" then readAfter .check outer {} none rest
    else if argument = "run" then readAfter .run outer {} none rest
    else if argument = "help" then readTopic rest
    else if asksVersion argument then .version
    else if asksHelp argument then .help
    else
      match outer.add? argument with
      | some outer => readBefore outer rest
      | none => .misuse

/-- The meaning of the arguments. -/
def read (arguments : List String) : Arguments := readBefore {} arguments

end Arguments

end GridRobot
