import AccessGateway.Cluster.Snapshot
import AccessGateway.Files
import AccessGateway.Yaml.Node

/-!
# `AccessGateway.Cluster.File`: snapshots in files

A snapshot of the cluster state is kept in a YAML file, in which every section may be left out. A
file that cannot be read and one that is no snapshot are two kinds of faults, and the second does
not say what is wrong with the file.
-/

set_option autoImplicit false

namespace AccessGateway.Snapshot

/-- The snapshot that the content of a file gives, if it is YAML and has the form of one. -/
def ofContent? (content : String) : Option Snapshot := (Yaml.read? content).bind read

/-- The snapshot of what is found at a path, or why there is none. -/
def ofEntry : FileEntry → Outcome Snapshot
  | .absent => .error (.files "No such file or directory")
  | .directory => .error (.files "Is a directory")
  | .file content =>
    match ofContent? content with
    | some snapshot => .ok snapshot
    | none => .error (.yaml "malformed snapshot")

/-- Loads a snapshot from the file at a path. -/
def load {m : Type → Type} [Monad m] (files : Files m) (path : String) : m (Outcome Snapshot) :=
  return ofEntry (← files path)

end AccessGateway.Snapshot
