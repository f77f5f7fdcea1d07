import AccessGateway.CommandLine.Reader

/-!
# `AccessGateway.CommandLine.Basic`: invocations of the gateway

An `Invocation` is what a command line asks for. Without a command the gateway serves. The values
of flags were checked when they were read (`AccessGateway.CommandLine.Reader`), so what is made of
them here cannot fail: a flag that has a value has one of the right form.
-/

set_option autoImplicit false

namespace AccessGateway

/-- What the program is told to do. The cost of a hash may still be out of the range that the digest
allows. -/
inductive Command where
  | serve
  | config
  | hashPassword (password : String) (cost : Nat)
  deriving DecidableEq, Repr

/-- A command line that was understood. What the settings decide otherwise is absent where no flag
was given; a command that is absent means to serve. -/
structure Invocation where
  config : Option String
  port : Option Nat
  host : Option String
  logLevel : String
  logFormat : Option String
  debug : Bool
  command : Option Command
  deriving DecidableEq, Repr

namespace Invocation

open CommandLine

/-- The invocation that the words of a command line make. Defaults were added to the values before,
so a fallback here is never reached for a flag that has one. -/
def ofWords (words : Words) : Invocation :=
  let value? (flag : Flag) : Option String := (words.values.lookup flag).map Prod.snd
  let cost := ((value? .cost).bind (Flag.number? Flag.maxCost)).getD Digest.Bcrypt.usualCost
  { config := value? .config
    port := (value? .port).bind (Flag.number? maxPort)
    host := value? .host
    logLevel := (value? .logLevel).getD ""
    logFormat := value? .logFormat
    debug := value? .debug == some "true"
    command := match words.command with
      | .top => none
      | .serve => some .serve
      | .config => some .config
      | .hashPassword => some (.hashPassword (words.operands.head?.getD "") cost) }

/-- Reads a command line, for which variables may stand in. The words come without the name of the
program. -/
def read (env : Environment) (words : List String) : Except Refusal Invocation :=
  (readTop env .start words).map ofWords

end Invocation

end AccessGateway
