import AccessGateway.Digest.Bcrypt
import AccessGateway.Settings.Basic
import AccessGateway.Settings.Environment

/-!
# `AccessGateway.CommandLine.Flag`: what a command line may say

The commands of the gateway and the flags of each. A flag may also be given by a variable, and
the flags that `isShared` names may stand before or behind a command. Names, letters, variables,
defaults and checks are functions of the flag, so the reader and the help go by one
description and a flag is added in one place.

A refusal says what kind of fault a command line has and not which word is at fault; help and
version count as refusals, since nothing is carried out.
-/

set_option autoImplicit false

namespace AccessGateway.CommandLine

/-- The part of a command line: what comes before any command, or one of the commands. Each has
flags of its own. -/
inductive Level where
  | top
  | serve
  | config
  | hashPassword
  deriving DecidableEq, Repr

/-- Why a command line is not carried out. -/
inductive Refusal where
  /-- Help is asked for, about a level or else about the help command. -/
  | help (about : Option Level)
  | version
  | unknownArgument
  | unknownCommand
  | missingArgument
  /-- A flag without its value, or a value of the wrong form. -/
  | invalidValue
  /-- A value that is no number, or out of range. -/
  | invalidNumber
  | repeatedFlag
  /-- A value for a flag that takes none. -/
  | unwantedValue
  deriving DecidableEq, Repr

/-- The status with which a program ends on a refusal. Being asked for help is no failure. -/
def Refusal.exitCode : Refusal → Nat
  | .help _ | .version => 0
  | _ => 2

namespace Level

/-- The commands with the levels that they lead to, in the order in which help lists them. -/
def commands : List (String × Level) :=
  [("serve", serve), ("config", config), ("hash-password", hashPassword)]

/-- The level that a command leads to. -/
def ofCommand? (name : String) : Option Level := commands.lookup name

/-- The command that leads to a level; none leads to the top. -/
def name? (level : Level) : Option String :=
  (commands.find? fun (_, other) => other = level).map Prod.fst

/-- The command that shows help. It leads to no level, as it reads no flags. -/
def helpCommand : String := "help"

/-- Whether a word is a command, the one for help included. -/
def isCommand (name : String) : Bool := (ofCommand? name).isSome || name == helpCommand

/-- How many operands a level has; all of them are required. -/
def operandCount : Level → Nat
  | hashPassword => 1
  | _ => 0

end Level

/-- The flags of all levels. -/
inductive Flag where
  | config
  | port
  | host
  | logLevel
  | logFormat
  | debug
  | cost
  | help
  | version
  deriving DecidableEq, Repr

namespace Flag

/-- The name behind two dashes. -/
def long : Flag → String
  | config => "config"
  | port => "port"
  | host => "host"
  | logLevel => "log-level"
  | logFormat => "log-format"
  | debug => "debug"
  | cost => "cost"
  | help => "help"
  | version => "version"

/-- The letter behind one dash. Upper and lower case are different letters. -/
def short? : Flag → Option Char
  | config => some 'c'
  | port => some 'p'
  | help => some 'h'
  | version => some 'V'
  | _ => none

/-- Whether a value belongs to the flag; the others are on when they are given. -/
def takesValue : Flag → Bool
  | debug | help | version => false
  | _ => true

/-- The variable that gives the flag where the command line does not. The cost has none. -/
def variableName? : Flag → Option String
  | config => some "DEVOPS_APISERVER_CONFIG"
  | port => some "DEVOPS_APISERVER_PORT"
  | host => some "DEVOPS_APISERVER_HOST"
  | logLevel => some "DEVOPS_APISERVER_LOG_LEVEL"
  | logFormat => some "DEVOPS_APISERVER_LOG_FORMAT"
  | debug => some "DEVOPS_APISERVER_DEBUG"
  | _ => none

/-- The value of a flag that is not given, in the spelling of a command line. -/
def default? : Flag → Option String
  | logLevel => some "info"
  | cost => some (Text.natText Digest.Bcrypt.usualCost)
  | debug => some "false"
  | _ => none

/-- Whether the flag may stand before or behind a command. Port, host and debug may only stand
before one. -/
def isShared : Flag → Bool
  | config | logLevel | logFormat => true
  | _ => false

/-- The flags of a level, in the order in which help shows them and their variables are looked
at. -/
def ofLevel : Level → List Flag
  | .top => [config, port, host, logLevel, logFormat, debug, help, version]
  | .hashPassword => [config, cost, logLevel, logFormat, help]
  | _ => [config, logLevel, logFormat, help]

/-- The number of a value, if it is in range. A plus sign may stand in front. -/
def number? (high : Nat) (value : String) : Option Nat :=
  match Text.Numeral.readInt value.toList with
  | .ok (.ofNat n) => if n ≤ high then some n else none
  | _ => none

/-- The greatest cost that can be asked for. The digest allows fewer, which is a matter of the hash
and not of the command line. -/
def maxCost : Nat := Text.Numeral.maxHalfWord

/-- Checks a value: a path is not empty, a number is in range, and a truth value is spelled
out. -/
def check (flag : Flag) (value : String) : Except Refusal Unit :=
  match flag with
  | config => if value = "" then .error .invalidValue else .ok ()
  | port => if (number? maxPort value).isSome then .ok () else .error .invalidNumber
  | cost => if (number? maxCost value).isSome then .ok () else .error .invalidNumber
  | debug => if value = "true" || value = "false" then .ok () else .error .invalidValue
  | _ => .ok ()

end Flag

end AccessGateway.CommandLine
