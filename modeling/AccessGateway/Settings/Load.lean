import AccessGateway.Files
import AccessGateway.Settings.Basic
import AccessGateway.Settings.VariableFile
import AccessGateway.Yaml.Node

/-!
# `AccessGateway.Settings.Load`: the settings of an installation

Settings are read from a YAML file and from variables, and the variables count over the file.
The file may name files of variables, which are read in between.

There are four steps: the settings file is found and read as a tree; the files of variables that
the tree names are read, which adds to the variables of the process; the tree that the variables
give is put over that of the file; and the result is read as settings. The tree of the file is asked
for the names of the files before anything is put over it, so variables cannot name any.

Files are read through `Files` in any monad. With the identity for it, loading is a function of what
the files hold, which is how it is reasoned about.
-/

set_option autoImplicit false

namespace AccessGateway

namespace Settings

/-- The name of the settings file. -/
def fileName : String := "kubesphere.yaml"

/-- Where the settings file is looked for, the first place first. Nothing need be there. -/
def candidates : List String := ["/etc/kubesphere/" ++ fileName, "./" ++ fileName]

/-- Settings of the wrong form, be it a file that is no YAML, or a value that is not of the type of
its setting. -/
def malformed : Fault := .settings "malformed settings"

/-- A settings file that does not exist, although it was asked for by its path. -/
def notFound (path : String) : Fault := .settings ("Config file not found: " ++ path)

/-- The tree of a settings file: a mapping, of which two equal keys count as the last. -/
def treeOf? (content : String) : Option Json := do
  let node ← Yaml.read? content
  return Json.object (← (← node.members?).mapM' fun (key, node) => node.json?.map ((key, ·)))

/-- The tree of what is found as the settings file. Only a file gives one that is not empty; a
directory in its place is taken for no file. -/
def treeOfEntry? : FileEntry → Option Json
  | .file content => treeOf? content
  | _ => some (.obj [])

open Decoder in
/-- The files of variables that a settings file names. Names that are not a list of texts are none,
and are refused only when the settings are read. -/
def variableFiles (tree : Json) : List String :=
  (((tree.field? "envFiles").bind (list text : Json.Decoder (List String)))).getD []

/-- A path where a tilde in front stands for the home directory. -/
def expandHome (env : Environment) (path : String) : String :=
  match path.toList, env.value? "HOME" with
  | '~' :: rest, some home => home ++ String.ofList rest
  | _, _ => path

/-- The settings of a file's tree under those of the variables. -/
def ofLayers? (tree : Json) (env : Environment) : Option Settings :=
  read (tree.overlay env.settings)

variable {m : Type → Type} [Monad m]

/-- The first of some paths at which anything is found. -/
def findFirst (files : Files m) : List String → m FileEntry
  | [] => return .absent
  | path :: paths => do
    match ← files path with
    | .absent => findFirst files paths
    | entry => return entry

/-- What is found as the settings file: at the given path, where something must be, or in one of the
usual places. -/
def findFile (files : Files m) : Option String → m (Outcome FileEntry)
  | some path => do
    match ← files path with
    | .absent => return .error (notFound path)
    | entry => return .ok entry
  | none => return .ok (← findFirst files candidates)

/-- Reads files of variables one after the other; what is no file is passed over. -/
def addVariables (files : Files m) : List String → Environment → m Environment
  | [], env => return env
  | path :: paths, env => do
    match ← files (expandHome env path) with
    | .file content => addVariables files paths (VariableFile.readInto env content)
    | _ => addVariables files paths env

/-- Loads the settings from the file at a path, or from one of the usual places, and from the
variables. It does not say what was malformed. -/
def load (files : Files m) (env : Environment) (path : Option String) : m (Outcome Settings) := do
  match ← findFile files path with
  | .error fault => return .error fault
  | .ok entry =>
    match treeOfEntry? entry with
    | none => return .error malformed
    | some tree =>
      let env ← addVariables files (variableFiles tree) env
      match ofLayers? tree env with
      | none => return .error malformed
      | some settings => return .ok settings

end Settings

end AccessGateway
