import AccessGateway.CommandLine.Flag
import AccessGateway.Text.Fill

/-!
# `AccessGateway.CommandLine.Help`: what the program says about itself

Help lists the commands of a level, its operands and its flags, with the variables and defaults of
the flags. Names stand in one column and what they are for in another, which is filled up to a
width of a hundred characters. The column depends on the longest name of a section, so a page is
laid out from the descriptions of `AccessGateway.CommandLine.Flag` and not stored. What a
variable is set to is shown with its name, so help is a function of the environment.
-/

set_option autoImplicit false

namespace AccessGateway.CommandLine

/-- The name of the program, as usage lines and the version show it. -/
def programName : String := "devops-apiserver"

/-- The version of the program. -/
def programVersion : String := "0.3.0"

/-- What the help command is for, on its own page and in the list of commands. -/
def helpSummary : String := "Print this message or the help of the given subcommand(s)"

/-- What a level is for: the first line of its page. -/
def Level.summary : Level → String
  | top => "DevOps API server core - authentication chain, RBAC authorization and cached " ++
      "resource queries"
  | serve => "Start the API server (default)"
  | config => "Print which configuration sections are present, as JSON"
  | hashPassword => "Print a bcrypt hash for seeding a user's password"

/-- What a flag is for, before the notes on its variable and default. -/
def Flag.summary : Flag → String
  | config => "Path to configuration file (YAML)"
  | port => "Port to listen on"
  | host => "Host to bind to"
  | logLevel => "Log level (trace, debug, info, warn, error)"
  | logFormat => "Log format (text, json)"
  | debug => "Debug mode: allows the in-process credential store via redis host `FAKE`"
  | cost => "bcrypt cost"
  | help => "Print help"
  | version => "Print version"

/-- The place of a value: the name of the flag in capitals, with underscores for dashes. -/
def Flag.placeholder (flag : Flag) : String :=
  "<" ++ (flag.long.map fun c => if c = '-' then '_' else c.toUpper) ++ ">"

/-- A flag as it is given, with room for the letter that it may not have, so that long names stand
below each other. -/
def Flag.label (flag : Flag) : String :=
  let letter := match flag.short? with
    | some c => "-" ++ c.toString ++ ", "
    | none => "    "
  letter ++ "--" ++ flag.long ++ if flag.takesValue then " " ++ flag.placeholder else ""

/-- What a flag is for, its variable with the present value, and its default. A flag without a value
has a default that is not shown. -/
def Flag.description (env : Environment) (flag : Flag) : String :=
  let variableNote := flag.variableName?.map fun name =>
    "[env: " ++ name ++ "=" ++ (env.value? name).getD "" ++ "]"
  let defaultNote := (flag.default?.filter fun _ => flag.takesValue).map fun value =>
    "[default: " ++ value ++ "]"
  " ".intercalate (flag.summary :: [variableNote, defaultNote].filterMap id)

namespace Help

/-- The width of help, in characters. -/
def width : Nat := 100

/-- One entry: a name and what it is for, from the given column on. Further lines begin in that
column too. -/
def entry (column : Nat) (name about : String) : String :=
  let lines := (Text.linesWithin (width - column) about.toList).map String.ofList
  ("  " ++ name).pushn ' ' (column - 2 - name.length) ++
    ("\n".pushn ' ' column).intercalate lines

/-- A section with its entries, which all begin in one column, two blanks behind the longest name. A
section without entries is left out. -/
def listing? (heading : String) (entries : List (String × String)) : Option String :=
  if entries.isEmpty then none
  else
    let column := (entries.map fun (name, _) => name.length).foldl max 0 + 4
    some (heading ++ ":\n" ++
      "\n".intercalate (entries.map fun (name, about) => entry column name about))

/-- A page of help: what it is about, the usage, and the sections that are there, with an empty line
between any two. -/
def page (about : String) (usage : List String) (sections : List (Option String)) : String :=
  "\n\n".intercalate
    (about :: ("Usage: " ++ " ".intercalate (programName :: usage)) :: sections.filterMap id)

/-- The commands with what they are for, the one for help at the end. -/
def commands : List (String × String) :=
  Level.commands.map (fun (name, level) => (name, level.summary)) ++
    [(Level.helpCommand, helpSummary)]

/-- The operands of a level, as usage and the section of arguments show them. -/
def operands : Level → List (String × String)
  | .hashPassword => [("<PASSWORD>", "Plain-text password")]
  | _ => []

/-- Help about a level. Only the top lists commands, since only there one can follow. -/
def ofLevel (env : Environment) (level : Level) : String :=
  let words := match level.name? with
    | some name => [name, "[OPTIONS]"] ++ (operands level).map Prod.fst
    | none => ["[OPTIONS]", "[COMMAND]"]
  page level.summary words
    [listing? "Commands" (if level = .top then commands else []),
     listing? "Arguments" (operands level),
     listing? "Options"
      ((Flag.ofLevel level).map fun flag => (flag.label, flag.description env))]

/-- Help about the help command, which has no options. -/
def ofHelp : String :=
  page helpSummary [Level.helpCommand, "[COMMAND]..."]
    [listing? "Arguments" [("[COMMAND]...", "Print help for the subcommand(s)")]]

end Help

end AccessGateway.CommandLine
