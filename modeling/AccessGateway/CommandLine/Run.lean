import AccessGateway.CommandLine.Basic
import AccessGateway.CommandLine.Help
import AccessGateway.Gateway.Start
import AccessGateway.Json.Printer
import AccessGateway.Settings.Load

/-!
# `AccessGateway.CommandLine.Run`: carrying out an invocation

What the program writes and the status it ends with. The settings are shown as an overview only,
never their values, so a secret in them cannot reach the screen. Listening on an address is left to
whoever runs the program: serving ends either with a failure or with a gateway that is ready and
the address to listen on.

Files are looked at in any monad, and the salt and the variables are arguments. The end of a run is
a `Report`, which the program writes out and nothing else.
-/

set_option autoImplicit false

namespace AccessGateway

/-- What a program leaves behind when it ends: its status, and what goes to each of its two
outputs. -/
structure Report where
  status : Nat
  written : String := ""
  complaint : String := ""
  deriving DecidableEq, Repr

namespace Report

/-- A program that has done its work and written a line, which ends with status zero. -/
def success (line : String) : Report := ⟨0, line ++ "\n", ""⟩

/-- A program that has failed and complained in a line, which ends with status one. -/
def failure (line : String) : Report := ⟨1, "", line ++ "\n"⟩

end Report

/-- A gateway that only has to listen: it is running, and its address was understood. -/
structure Service where
  running : Running
  address : IpAddress
  port : Nat

namespace CommandLine

/-- The wording of a refusal. Help is text of its own; the others say what kind of fault there
is. -/
def Refusal.message (env : Environment) : Refusal → String
  | .help (some level) => Help.ofLevel env level
  | .help none => Help.ofHelp
  | .version => programName ++ " " ++ programVersion
  | .unknownArgument => "error: unexpected argument"
  | .unknownCommand => "error: unrecognized subcommand"
  | .missingArgument => "error: a required argument was not provided"
  | .invalidValue | .invalidNumber => "error: invalid value"
  | .repeatedFlag => "error: an argument cannot be used multiple times"
  | .unwantedValue => "error: unexpected value"

/-- The end of a program whose command line is refused. What was asked for is written, and a fault
is complained about. -/
def Refusal.report (env : Environment) (r : Refusal) : Report :=
  if r.exitCode = 0 then .success (r.message env)
  else { Report.failure (r.message env) with status := r.exitCode }

end CommandLine

namespace Invocation

/-- Settings in which host and port of the command line count over those of the file. -/
def adjust (i : Invocation) (s : Settings) : Settings :=
  { s with
    server := { host := i.host.getD s.server.host, port := i.port.getD s.server.port } }

/-- Writes the overview of the settings, or why they could not be loaded. -/
def showSettings (loaded : Outcome Settings) : Report :=
  match loaded with
  | .ok s => .success s.overviewWire.pretty
  | .error fault => .failure ("Failed to load configuration: " ++ fault.message)

/-- Writes the hash of a password under a salt. A cost out of range is complained about with the
range. -/
def showHash (salt : Bytes) (password : String) (cost : Nat) : Report :=
  if Digest.Bcrypt.isCost cost then .success (Digest.Bcrypt.hash cost salt password).text
  else
    let (least, greatest) := Digest.Bcrypt.costs
    .failure ("Failed to hash password: Cost needs to be between " ++ Text.natText least ++
      " and " ++ Text.natText greatest ++ ", got " ++ Text.natText cost)

variable {m : Type → Type} [Monad m]

/-- Prepares a gateway to serve. A failure is logged and not complained about. The gateway is
started before its address is read, so of two failures that of the start counts. -/
def prepare (i : Invocation) (files : Files m) (loaded : Outcome Settings) :
    m (Outcome Service) := do
  match loaded.map i.adjust with
  | .error fault => return .error fault
  | .ok s =>
    return (← s.start files i.debug).bind fun running =>
      s.listenAddress.map fun address => ⟨running, address, s.server.port⟩

/-- Carries out an invocation. `salt` is for a password that is to be hashed, and `listen` says how
a service that is ready ends. Hashing a password looks at no file. -/
def run (i : Invocation) (files : Files m) (env : Environment) (salt : Bytes)
    (listen : Service → m Report) : m Report := do
  match i.command with
  | some (.hashPassword password cost) => return showHash salt password cost
  | some .config => return showSettings (← Settings.load files env i.config)
  | some .serve | none =>
    match ← i.prepare files (← Settings.load files env i.config) with
    | .ok service => listen service
    | .error _ => return { status := 1 }

/-- Carries out a command line. A refusal is reported before any file is looked at. -/
def runWords (words : List String) (files : Files m) (env : Environment) (salt : Bytes)
    (listen : Service → m Report) : m Report :=
  match read env words with
  | .ok i => i.run files env salt listen
  | .error refusal => return refusal.report env

end Invocation

end AccessGateway
