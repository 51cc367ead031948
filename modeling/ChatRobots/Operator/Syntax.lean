/-
Module: ChatRobots.Operator.Syntax
Purpose: What can be written on the command line, and the help on it.
Main exports: Flag, Subcommand, CommandSyntax, CommandSyntax.page
-/

namespace ChatRobots

/-!
The command line is a subcommand with its flags.  Every command has a page of help, in two forms
for the program as a whole: a short one, and a long one that begins with more words and gives each
flag a line of its own.
-/

/-- The name of the program. -/
def programName : String := "relaybot"

structure Flag where
  short : Option Char := none
  long : String
  help : String
deriving DecidableEq, Repr

namespace Flag

/-- The flag as it is written out. -/
def written (flag : Flag) : String :=
  "--" ++ flag.long

/-- The flag at the beginning of its line of help. -/
def listed (flag : Flag) : String :=
  match flag.short with
  | some c => "-" ++ c.toString ++ ", " ++ flag.written
  | none => "    " ++ flag.written

end Flag

/-- The flag that asks for help. -/
def helpFlag : Flag where
  short := some 'h'
  long := "help"
  help := "Print help"

def jsonFlag : Flag where
  long := "json"
  help := "Emit machine-readable JSON output"

inductive Subcommand where
  | migrate
  | config
  | doctor
  | help
deriving DecidableEq, Repr

namespace Subcommand

def all : List Subcommand :=
  [migrate, config, doctor, help]

def name : Subcommand → String
  | migrate => "migrate"
  | config => "config"
  | doctor => "doctor"
  | help => "help"

def ofName? (name : String) : Option Subcommand :=
  all.find? fun subcommand => subcommand.name == name

/-- What the subcommand does. -/
def about : Subcommand → String
  | migrate => "Apply pending database migrations and return structured status output"
  | config => "Inspect effective configuration values with source attribution and redaction"
  | doctor => "Validate config, webhook readiness, and DB connectivity checks"
  | help => "Print this message or the help of the given subcommand(s)"

/-- The flags, the one for help last. -/
def flags : Subcommand → List Flag
  | migrate | config => [helpFlag]
  | doctor => [jsonFlag, helpFlag]
  | help => []

end Subcommand

/-- A column of names and one of descriptions, line by line. -/
def twoColumns (lines : List (String × String)) : String :=
  let width := (lines.map fun line => line.1.length).foldl max 0
  String.join <| lines.map fun (name, description) =>
    "  " ++ name ++ String.ofList (List.replicate (width - name.length) ' ') ++ "  "
      ++ description ++ "\n"

namespace Subcommand

/-- How the subcommand is used with any flags. -/
def usage (subcommand : Subcommand) : String :=
  programName ++ " " ++ subcommand.name ++ match subcommand with
    | migrate | config => ""
    | doctor => " [OPTIONS]"
    | help => " [COMMAND]..."

/-- How the subcommand is used with certain flags. -/
def usageWith (subcommand : Subcommand) (flags : List Flag) : String :=
  if flags.isEmpty then subcommand.usage
  else " ".intercalate (programName :: subcommand.name :: flags.map (·.written))

/-- The page of help on the subcommand. -/
def page (subcommand : Subcommand) : String :=
  subcommand.about ++ "\n\nUsage: " ++ subcommand.usage ++ "\n\n" ++
    if subcommand = help then
      "Arguments:\n" ++ twoColumns [("[COMMAND]...", "Print help for the subcommand(s)")]
    else
      "Options:\n" ++ twoColumns (subcommand.flags.map fun flag => (flag.listed, flag.help))

end Subcommand

/-- How the program is used. -/
def programUsage : String :=
  programName ++ " <COMMAND>"

/-- How the program is used with certain flags. -/
def programUsageWith (flags : List Flag) : String :=
  " ".intercalate ([programName] ++ flags.map (·.written) ++ ["<COMMAND>"])

/-- The page of help on the program, with its beginning and its flags. -/
def pageWith (about flags : String) : String :=
  about ++ "\n\nUsage: " ++ programUsage ++ "\n\nCommands:\n"
    ++ twoColumns (Subcommand.all.map fun subcommand => (subcommand.name, subcommand.about))
    ++ "\nOptions:\n" ++ flags
    ++ "\nExamples:\n  relaybot doctor --json\n  relaybot config\n  relaybot migrate\n"

/-- The short page of help on the program. -/
def shortPage : String :=
  pageWith "Relaybot operator CLI"
    (twoColumns [(helpFlag.listed, helpFlag.help ++ " (see more with '--help')")])

/-- The long page of help on the program. -/
def longPage : String :=
  pageWith "Operate relaybot: apply migrations, inspect configuration, and check readiness."
    ("  " ++ helpFlag.listed ++ "\n          " ++ helpFlag.help
      ++ " (see a summary with '-h')\n")

end ChatRobots
