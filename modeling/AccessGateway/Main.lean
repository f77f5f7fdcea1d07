import AccessGateway.CommandLine.Run

/-!
# `AccessGateway.Main`: the program

Looks at files and variables and draws the salt of a password hash. Everything else is decided by
`Invocation.runWords`, which is given these as arguments: whatever is proved about it holds of the
program with the files it finds and the salt it draws.
-/

set_option autoImplicit false

namespace AccessGateway

/-- Looks at a path of the file system. What cannot be read for another reason than being a
directory counts as absent. -/
def lookAt (path : String) : IO FileEntry := do
  try return .file (← IO.FS.readFile path)
  catch
    | .inappropriateType .. => return .directory
    | _ => return .absent

/-- The variables of the process, as the system lists them: entries that end in a zero byte, name
and value divided by the first equals sign. -/
def processEnvironment : IO Environment := do
  let listing := ((← lookAt "/proc/self/environ").content?).getD ""
  return (Text.pieces '\x00' listing.toList).filterMap fun entry =>
    (Text.splitOnce? '=' entry).map fun (name, value) => (String.ofList name, String.ofList value)

/-- The end of a program whose gateway is ready. There is no listener to hand it to, so it ends with
a complaint that names the port. -/
def withoutListener (service : Service) : IO Report :=
  return .failure ("no listener for port " ++ Text.natText service.port)

end AccessGateway

open AccessGateway in
/-- Carries out the command line: writes what its report says to the two outputs and ends with its
status. -/
def main (words : List String) : IO UInt32 := do
  let salt ← IO.getRandomBytes 16
  let report ←
    Invocation.runWords words lookAt (← processEnvironment) salt.toList withoutListener
  IO.print report.written
  IO.eprint report.complaint
  return report.status.toUInt32
