/-
Module: ChatRobots.Command
Purpose: One line of command text: a verb, positional arguments and named parameters.
Main exports: Command, Command.parse, Command.strFrom, Command.requireArgs
-/
import ChatRobots.Dictionary
import ChatRobots.Text.Blank
import ChatRobots.Text.Split

namespace ChatRobots

/-!
A command is read from the text that follows a robot's name.  Blanks at its ends do not count;
within it only the space separates, so a tab belongs to the token it stands in.  The first token
is the verb, colons and all.  Of the tokens after it those without a colon are arguments, in
order, and the others are parameters: what stands before the first colon is the key, what follows
is the value, and the last value given for a key counts.

Every text is a command.  A blank one has the empty verb, which asks for a robot's default.
-/

/-- A command, as it was read. -/
structure Command where
  verb : String
  args : List String
  params : Dictionary String
  /-- Everything after the verb, unsplit, without the blanks at its ends. -/
  rawArgs : String

namespace Command

/-- A parameter: the key before the first colon and the value after it. -/
def param? (token : List Char) : Option (String × String) :=
  (Text.cut? ':' token).map fun (key, value) => (String.ofList key, String.ofList value)

/-- The tokens without a colon. -/
def argsOf (tokens : List (List Char)) : List String :=
  (tokens.filter fun token => (param? token).isNone).map String.ofList

/-- The tokens with a colon, as parameters. -/
def paramsOf (tokens : List (List Char)) : Dictionary String :=
  Dictionary.ofList (tokens.filterMap param?)

/-- Read a command. -/
def parse (raw : String) : Command :=
  let text := Text.trim raw.toList
  match Text.cut? ' ' text with
  | none => ⟨String.ofList text, [], Dictionary.empty, ""⟩
  | some (verb, rest) =>
      let tokens := Text.words ' ' rest
      ⟨String.ofList verb, argsOf tokens, paramsOf tokens, String.ofList (Text.trim rest)⟩

/-- The argument at a place, empty when there is none. -/
def arg (command : Command) (place : Nat) : String :=
  (command.args[place]?).getD ""

/-- The value of a parameter, empty when it is not given. -/
def param (command : Command) (key : String) : String :=
  (command.params.find? key).getD ""

def hasArgs (command : Command) : Bool :=
  !command.args.isEmpty

/-- The command names no verb. -/
def isDefault (command : Command) : Bool :=
  command.verb == ""

/-- The verb is one of these. -/
def isOneOf (command : Command) (verbs : List String) : Bool :=
  verbs.contains command.verb

/-- The arguments from a place on, with single spaces between them. -/
def strFrom (command : Command) (place : Nat) : String :=
  " ".intercalate (command.args.drop place)

/-- The first arguments, one for each name; the usage when there are fewer. -/
def requireArgs (command : Command) (names : List String) : Except String (List String) :=
  if command.args.length < names.length then
    .error (" ".intercalate (names.map fun name => "<" ++ name ++ ">"))
  else .ok (command.args.take names.length)

end Command

end ChatRobots
