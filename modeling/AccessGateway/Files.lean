/-!
# `AccessGateway.Files`: looking at files

Settings and snapshots come from files. What reads them asks for a path at a time, in whatever
monad provides the answers: the program looks at its file system, and a statement about what is
loaded takes any function from paths to entries. An absent file and a directory are told apart,
since a directory at one of the usual places of the settings ends the search for them.
-/

set_option autoImplicit false

namespace AccessGateway

/-- What is found at a path: nothing, a directory, or a file with its content as text. -/
inductive FileEntry where
  | absent
  | directory
  | file (content : String)
  deriving DecidableEq, Repr

namespace FileEntry

/-- The content of a file; nothing else has any. -/
def content? : FileEntry → Option String
  | file content => some content
  | _ => none

end FileEntry

/-- A way to look at a path. It is asked for one path after another, and nothing is written. -/
abbrev Files (m : Type → Type) := String → m FileEntry

end AccessGateway
