import AccessGateway.CommandLine.Flag

/-!
# `AccessGateway.CommandLine.Reader`: reading a command line

A command line is read word by word. A flag waits for its value, and the value is looked at only
when the next flag or operand begins or the words end; so of two faults the one that shows first
in this order counts. A command takes over all further words, and what comes before it is
completed after it.

`Progress` is the state of one level, and each function takes one step of it: a word, a group of
letters, a value. Values keep the source they came from, because a flag may be given at both
levels and then the better source wins (`joinValues`). Recursion is on the words, or on the letters
of one, so no word can be read twice.
-/

set_option autoImplicit false

namespace AccessGateway.CommandLine

/-- Where a value comes from; later sources count over earlier ones. -/
inductive Source where
  | default
  | environment
  | word
  deriving DecidableEq, Repr

/-- How much a source counts. What the user wrote counts over what surrounds the program, and both
over the default. -/
def Source.rank : Source → Nat
  | default => 0
  | environment => 1
  | word => 2

/-- The values of flags that have been looked at, with their sources; no flag is given twice by
words. -/
abbrev Values := List (Flag × Source × String)

/-- What has been read at one level. -/
structure Progress where
  values : Values
  operands : List String
  /-- A flag whose value has not been looked at, or not come yet. -/
  pending : Option (Flag × Option String)
  /-- Whether flags and commands have ended. -/
  trailing : Bool

namespace Progress

/-- Nothing has been read, and no flag is waiting. -/
def start : Progress := ⟨[], [], none, false⟩

/-- Whether a value has to come next. A word that would be a command is a value then. -/
def isWaiting (p : Progress) : Bool :=
  match p.pending with
  | some (_, none) => true
  | _ => false

/-- Takes a value that a word gives to a flag, which must have none yet. A repeated flag is refused
before its value is looked at. -/
def give (p : Progress) (flag : Flag) (value : String) : Except Refusal Progress := do
  if (p.values.lookup flag).isSome then throw .repeatedFlag
  flag.check value
  return { p with values := (flag, .word, value) :: p.values }

/-- Looks at the value that is pending. A flag whose value never came is refused here. -/
def settle (p : Progress) : Except Refusal Progress :=
  let settled := { p with pending := none }
  match p.pending with
  | none => .ok p
  | some (_, none) => .error .invalidValue
  | some (flag, some value) => settled.give flag value

/-- Takes a flag that has no value. Help and version end the reading at once, with whatever stands
behind them unread. -/
def mark (p : Progress) (level : Level) (flag : Flag) : Except Refusal Progress := do
  let p ← p.settle
  match flag with
  | .help => throw (.help level)
  | .version => throw .version
  | _ => p.give flag "true"

/-- Takes a flag and the value attached to it, if there is one. Without one the next word is its
value. -/
def take (p : Progress) (flag : Flag) (attached : Option String) : Except Refusal Progress := do
  let p ← p.settle
  match attached with
  | some value => p.give flag value
  | none => return { p with pending := some (flag, none) }

/-- Takes a flag by its long name, which a value may follow behind an equals sign. Only the first
such sign divides, so a value may hold more. -/
def takeLong (p : Progress) (level : Level) (word : List Char) : Except Refusal Progress :=
  let (name, attached) := match Text.splitOnce? '=' word with
    | some (name, value) => (name, some (String.ofList value))
    | none => (word, none)
  match (Flag.ofLevel level).find? fun flag => flag.long == String.ofList name with
  | none => .error .unknownArgument
  | some flag =>
    if flag.takesValue then p.take flag attached
    else if attached.isSome then .error .unwantedValue
    else p.mark level flag

/-- The value attached to a letter; an equals sign may stand before it and does not belong to it. -/
def attachedTo (rest : List Char) : Option String :=
  match rest with
  | [] => none
  | '=' :: value => some (String.ofList value)
  | value => some (String.ofList value)

/-- Takes flags by their letters. The rest of the word is the value of the first that takes one. -/
def takeShort (level : Level) : Progress → List Char → Except Refusal Progress
  | p, [] => .ok p
  | p, c :: rest =>
    match (Flag.ofLevel level).find? fun flag => flag.short? == some c with
    | none => .error .unknownArgument
    | some flag =>
      if flag.takesValue then p.take flag (attachedTo rest)
      else
        match p.mark level flag with
        | .ok p => takeShort level p rest
        | .error refusal => .error refusal

/-- Takes a word that is neither flag nor command: a value that is waited for, or an operand. The
top has no operands, so a word there is taken for an unknown command, unless it is a command that
stands behind two dashes. -/
def takeWord (p : Progress) (level : Level) (word : String) : Except Refusal Progress :=
  match p.pending, p.trailing with
  | some (flag, none), false => .ok { p with pending := some (flag, some word) }
  | _, _ =>
    if p.operands.length < level.operandCount then do
      let p ← p.settle
      return { p with operands := p.operands ++ [word] }
    else if level = .top && !(p.trailing && Level.isCommand word) then .error .unknownCommand
    else .error .unknownArgument

/-- Takes one word that is no command. Two dashes alone end the flags, and a dash alone is a word
like any other. -/
def next (p : Progress) (level : Level) (word : String) : Except Refusal Progress :=
  if p.trailing then p.takeWord level word
  else
    match word.toList with
    | ['-', '-'] => .ok { p with trailing := true }
    | '-' :: '-' :: name => p.takeLong level name
    | '-' :: c :: letters => takeShort level p (c :: letters)
    | _ => p.takeWord level word

/-- Adds the flags that only a variable gives. Their values are checked as those of words are, and
no flag that a word gave is looked up. -/
def addVariables (env : Environment) : List Flag → Values → Except Refusal Values
  | [], values => .ok values
  | flag :: rest, values =>
    match values.lookup flag, flag.variableName?.bind env.value? with
    | none, some value => do
      flag.check value
      addVariables env rest ((flag, .environment, value) :: values)
    | _, _ => addVariables env rest values

/-- Adds the flags that are not given at all. Defaults need no check, as they are of the right
form. -/
def addDefaults (flags : List Flag) (values : Values) : Values :=
  values ++ flags.filterMap fun flag =>
    match values.lookup flag, flag.default? with
    | none, some value => some (flag, .default, value)
    | _, _ => none

/-- Completes a level: variables and defaults are added, and no operand may be missing. A variable
at fault shows before a missing operand. -/
def complete (p : Progress) (env : Environment) (level : Level) :
    Except Refusal (Values × List String) := do
  let p ← p.settle
  let values ← addVariables env (Flag.ofLevel level) p.values
  if p.operands.length < level.operandCount then throw .missingArgument
  return (addDefaults (Flag.ofLevel level) values, p.operands)

/-- Reads the words of a level without commands, up to the first refusal. -/
def readAll (level : Level) : Progress → List String → Except Refusal Progress
  | p, [] => .ok p
  | p, word :: rest =>
    match p.next level word with
    | .ok p => readAll level p rest
    | .error refusal => .error refusal

end Progress

/-- What a command line says: the flags, and the command with its operands. -/
structure Words where
  values : Values
  command : Level
  operands : List String

/-- The refusal with which a request for help about commands ends: help about the one command named,
or about the top. -/
def helpAbout : List String → Refusal
  | [] => .help (some .top)
  | [name] => if Level.isCommand name then .help (Level.ofCommand? name) else .unknownCommand
  | _ => .unknownCommand

/-- The values of the top level and of a command as one. Of a shared flag the value at the command
counts, unless that at the top has a source that counts over it. Values are looked up from the
front, so those of the command stand there. -/
def joinValues (top inner : Values) : Values :=
  let outranked (flag : Flag) (source : Source) : Bool :=
    match top.lookup flag with
    | some (above, _) => flag.isShared && source.rank < above.rank
    | none => false
  inner.filter (fun (flag, source, _) => !outranked flag source) ++ top

/-- Reads the words from the top level on. The command is completed before the top is, so its faults
show first. -/
def readTop (env : Environment) : Progress → List String → Except Refusal Words
  | p, [] => do
    let (values, _) ← p.complete env .top
    return ⟨values, .top, []⟩
  | p, word :: rest =>
    if !p.trailing && !p.isWaiting && word == Level.helpCommand then .error (helpAbout rest)
    else
      match (if p.trailing || p.isWaiting then none else Level.ofCommand? word) with
      | some level => do
        let inner ← Progress.readAll level .start rest
        let (values, operands) ← inner.complete env level
        let (top, _) ← p.complete env .top
        return ⟨joinValues top values, level, operands⟩
      | none =>
        match p.next .top word with
        | .ok p => readTop env p rest
        | .error refusal => .error refusal

end AccessGateway.CommandLine
