/-
Module: ChatRobots.Operator.CommandLine
Purpose: Reading the command line, and running what it says.
Main exports: CommandLine, CommandLine.read, UsageError, CommandRun, CommandRun.ofArguments
-/
import ChatRobots.Operator.Syntax
import ChatRobots.Operator.Task
import ChatRobots.Text.Similarity

namespace ChatRobots

/-!
The arguments are read from left to right.  The first that makes no sense is an error, and asking
for help ends the reading at once.  Two dashes alone mean that no flags follow; as the program has
nothing but flags and subcommands, whatever follows them is wrong.

An error says what is wrong and how the command is used, and it may add a tip: a similar word, the
subcommand that a flag belongs to, or that the two dashes are in the way.
-/

/-- An argument by its form. -/
inductive Argument where
  /-- Two dashes alone. -/
  | endOfFlags
  | long (name : String) (value : Option String)
  | short (first : Char)
  | word
deriving DecidableEq, Repr

namespace Argument

def ofText (text : String) : Argument :=
  match text.toList with
  | ['-', '-'] => endOfFlags
  | '-' :: '-' :: rest =>
      match Text.cut? '=' rest with
      | some (name, value) => long (String.ofList name) (some (String.ofList value))
      | none => long (String.ofList rest) none
  | '-' :: c :: _ => short c
  | _ => word

end Argument

/-- What is wrong with a command line. -/
inductive UsageProblem where
  | unknownSubcommand (name : String)
  | unexpectedArgument (argument : String)
  | unexpectedValue (value : String) (flag : Flag)
  | repeatedFlag (flag : Flag)
deriving DecidableEq, Repr

namespace UsageProblem

def message : UsageProblem → String
  | unknownSubcommand name => "unrecognized subcommand '" ++ name ++ "'"
  | unexpectedArgument argument => "unexpected argument '" ++ argument ++ "' found"
  | unexpectedValue value flag =>
      "unexpected value '" ++ value ++ "' for '" ++ flag.written
        ++ "' found; no more were expected"
  | repeatedFlag flag =>
      "the argument '" ++ flag.written ++ "' cannot be used multiple times"

end UsageProblem

/-- What may have been meant. -/
inductive UsageTip where
  | similarSubcommands (names : List String)
  | similarFlag (name : String)
  | flagOf (subcommand : Subcommand) (name : String)
  /-- The subcommand stands after the end of the flags. -/
  | dropDashes (subcommand : Subcommand)
deriving DecidableEq, Repr

namespace UsageTip

def message : UsageTip → String
  | similarSubcommands [name] => "a similar subcommand exists: '" ++ name ++ "'"
  | similarSubcommands names =>
      "some similar subcommands exist: " ++ ", ".intercalate (names.map fun name =>
        "'" ++ name ++ "'")
  | similarFlag name => "a similar argument exists: '--" ++ name ++ "'"
  | flagOf subcommand name => "'" ++ subcommand.name ++ " --" ++ name ++ "' exists"
  | dropDashes subcommand =>
      "subcommand '" ++ subcommand.name ++ "' exists; to use it, remove the '--' before it"

end UsageTip

/-- An error in a command line. -/
structure UsageError where
  problem : UsageProblem
  tip : Option UsageTip := none
  /-- How the command is used. -/
  usage : String
  /-- The command has a flag for help. -/
  hasHelp : Bool := true
deriving DecidableEq, Repr

namespace UsageError

def message (error : UsageError) : String :=
  "error: " ++ error.problem.message
    ++ (error.tip.map fun tip => "\n\n  tip: " ++ tip.message).getD ""
    ++ "\n\nUsage: " ++ error.usage
    ++ (if error.hasHelp then "\n\nFor more information, try '--help'." else "") ++ "\n"

end UsageError

/-- What a command line says. -/
inductive CommandLine where
  | task (task : OperatorTask)
  /-- A page of help that was asked for. -/
  | page (text : String)
  /-- Nothing at all. -/
  | nothing
  | wrong (error : UsageError)
deriving DecidableEq, Repr

namespace CommandLine

/-- The most similar long name of a flag. -/
def similarFlag? (name : String) (flags : List Flag) : Option Flag :=
  (Text.similarWords name (flags.map (·.long))).getLast?.bind fun long =>
    flags.find? fun flag => flag.long == long

/-- The first of the subcommands among the arguments that has a similar flag. -/
def flagElsewhere? (name : String) : List String → Option UsageTip
  | [] => none
  | argument :: rest =>
      let tip := (Subcommand.ofName? argument).bind fun subcommand =>
        (similarFlag? name subcommand.flags).map fun flag => .flagOf subcommand flag.long
      tip.or (flagElsewhere? name rest)

/-- A flag that a subcommand does not have, after flags that it has. -/
def unknownFlag (subcommand : Subcommand) (given : List Flag) (name : String) : CommandLine :=
  let meant := similarFlag? name subcommand.flags
  let given := match meant with
    | some flag => if given.contains flag then given else given ++ [flag]
    | none => given
  .wrong {
    problem := .unexpectedArgument ("--" ++ name)
    tip := meant.map fun flag => .similarFlag flag.long
    usage := subcommand.usageWith given }


/-- Read the arguments of a subcommand, after flags that have been given. -/
def readFlags (subcommand : Subcommand) (task : List Flag → OperatorTask) (given : List Flag) :
    List String → CommandLine
  | [] => .task (task given)
  | argument :: rest =>
      let unexpected (argument : String) : CommandLine :=
        .wrong { problem := .unexpectedArgument argument, usage := subcommand.usage }
      match Argument.ofText argument with
      | .endOfFlags =>
          match rest with
          | [] => .task (task given)
          | next :: _ => unexpected next
      | .long name value =>
          match subcommand.flags.find? (fun flag => flag.long == name), value with
          | none, _ => unknownFlag subcommand given name
          | some flag, some value =>
              .wrong {
                problem := .unexpectedValue value flag
                usage := subcommand.usageWith given }
          | some flag, none =>
              if flag = helpFlag then .page subcommand.page
              else if given.contains flag then
                .wrong { problem := .repeatedFlag flag, usage := subcommand.usage }
              else readFlags subcommand task (given ++ [flag]) rest
      | .short c =>
          if subcommand.flags.any fun flag => flag.short == some c then .page subcommand.page
          else unexpected ("-" ++ c.toString)
      | .word => unexpected argument

/-- Read the subcommands for which help is wanted. -/
def readTopics : List String → CommandLine
  | [] => .page longPage
  | topic :: rest =>
      match Subcommand.ofName? topic with
      | none => .wrong { problem := .unknownSubcommand topic, usage := programUsage }
      | some subcommand =>
          match rest with
          | [] => .page subcommand.page
          | next :: _ =>
              .wrong {
                problem := .unknownSubcommand next
                usage := subcommand.usage
                hasHelp := subcommand.flags.contains helpFlag }

/-- An argument that is no subcommand where one is expected. -/
def unknownSubcommand (name : String) : CommandLine :=
  let similar := Text.similarWords name (Subcommand.all.map (·.name))
  .wrong {
    problem := .unknownSubcommand name
    tip := if similar.isEmpty then none else some (.similarSubcommands similar)
    usage := programUsage }

/-- The argument after the end of the flags. -/
def afterFlags : List String → CommandLine
  | [] => .nothing
  | argument :: _ =>
      match Subcommand.ofName? argument with
      | some subcommand =>
          .wrong {
            problem := .unexpectedArgument argument
            tip := some (.dropDashes subcommand)
            usage := programUsage }
      | none => unknownSubcommand argument

/-- Read the arguments of the program. -/
def read : List String → CommandLine
  | [] => .nothing
  | argument :: rest =>
      match Subcommand.ofName? argument with
      | some .help => readTopics rest
      | some .migrate => readFlags .migrate (fun _ => .migrate) [] rest
      | some .config => readFlags .config (fun _ => .config) [] rest
      | some .doctor => readFlags .doctor (fun given => .doctor (given.contains jsonFlag)) [] rest
      | none =>
          match Argument.ofText argument with
          | .endOfFlags => afterFlags rest
          | .long "help" none => .page longPage
          | .long "help" (some value) =>
              .wrong { problem := .unexpectedValue value helpFlag, usage := programUsage }
          | .long name _ =>
              match similarFlag? name [helpFlag] with
              | some flag =>
                  .wrong {
                    problem := .unexpectedArgument ("--" ++ name)
                    tip := some (.similarFlag flag.long)
                    usage := programUsageWith [flag] }
              | none =>
                  .wrong {
                    problem := .unexpectedArgument ("--" ++ name)
                    tip := flagElsewhere? name rest
                    usage := programUsage }
          | .short 'h' => .page shortPage
          | .short c =>
              .wrong {
                problem := .unexpectedArgument ("-" ++ c.toString)
                usage := programUsage }
          | .word => unknownSubcommand argument

end CommandLine

/-- How the program ran: its code, what it printed, and what it complained about. -/
structure CommandRun where
  exitCode : Nat
  output : String := ""
  complaint : String := ""
deriving DecidableEq, Repr

namespace CommandRun

/-- Run what a command line says. -/
def ofArguments (env : Environment) (files : Files) (arguments : List String) :
    CommandRun × Files :=
  match CommandLine.read arguments with
  | .page text => ({ exitCode := 0, output := text }, files)
  | .nothing => ({ exitCode := 2, complaint := shortPage }, files)
  | .wrong error => ({ exitCode := 2, complaint := error.message }, files)
  | .task task =>
      let (report, files) := task.run env files
      ({ exitCode := report.exitCode, output := report.output ++ "\n" }, files)

end CommandRun

end ChatRobots
