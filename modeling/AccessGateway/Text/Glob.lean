/-!
# `AccessGateway.Text.Glob`: patterns for keys

A pattern is compiled to a list of tokens and matched against a whole text. `?` stands for any
character, `*` for any characters, `[...]` and `[!...]` for one character in or out of a set,
and `**` as a whole path component for any number of components. The keys of stores are listed
by such patterns, so which entries a revocation reaches is decided here.

Matching tries the remainders of a text from the longest on, and gives up at once where the text
ran out (`Verdict`), so it is a structural recursion on the tokens with one on the text
inside. A slash in a text has no meaning of its own: `*` passes over it. What `accepts` says
about texts as a whole, without the order of trials, is in `AccessGateway.Proofs.Text.Glob`.
-/

set_option autoImplicit false

namespace AccessGateway.Text.Glob

/-- A member of a character set: one character or an inclusive range. A range from a later character
to an earlier one is empty. -/
inductive Specifier where
  | one (c : Char)
  | range (first last : Char)
  deriving DecidableEq, Repr

/-- A part of a pattern. The two that stand for any number of characters are tried, all others take
exactly one character. -/
inductive Token where
  | char (c : Char)
  | anyChar
  | anySequence
  | anyComponents
  | within (set : List Specifier)
  | except (set : List Specifier)
  deriving DecidableEq, Repr

/-- What is wrong with a pattern: too many stars in a row, two that are no component, or a set that
does not end. -/
inductive Problem where
  | wildcards
  | recursiveWildcards
  | invalidRange
  deriving DecidableEq, Repr

/-- What is wrong with a pattern, and at which character. -/
structure Fault where
  position : Nat
  problem : Problem
  deriving DecidableEq, Repr

/-- The wording of a problem, which a message shows behind the position. -/
def Problem.message : Problem → String
  | wildcards => "wildcards are either regular `*` or recursive `**`"
  | recursiveWildcards => "recursive wildcards must form a single path component"
  | invalidRange => "invalid range pattern"

/-- The members of a set: `a-z` is a range, any other character stands for itself. A dash at either
end of the set is a character, as no range can use it. -/
def specifiers : List Char → List Specifier
  | first :: '-' :: last :: rest => .range first last :: specifiers rest
  | c :: rest => .one c :: specifiers rest
  | [] => []

/-- Whether a character is in a set. Characters are compared by their numbers, so a range means the
numbers in between. -/
def contains (set : List Specifier) (c : Char) : Bool :=
  set.any fun s =>
    match s with
    | .one d => c == d
    | .range first last => first ≤ c && c ≤ last

/-- Adds the token of `**`. Two in a row are one, except at the start of a pattern, where both are
kept. -/
def pushComponents (done : List Token) : List Token :=
  match done with
  | .anyComponents :: _ :: _ => done
  | _ => .anyComponents :: done

/-- What the compiler is inside of: nothing, or a set that was opened at a position. The position is
where a set that does not end is at fault. -/
inductive Mode where
  | outside
  | inside (start : Nat) (negated : Bool) (read : List Char)

/-- The token of a set whose characters were read in reverse. The first character of a set is read
before the compiler looks for its end, so a bracket there is a member. -/
def setToken (negated : Bool) (read : List Char) : Token :=
  let set := specifiers read.reverse
  if negated then .except set else .within set

/-- Compiles the rest of a pattern. `position` counts the characters before it, `atStart` says that
a path component begins here, and `done` holds the tokens so far in reverse. The recursion is on the
pattern, of which some steps take up to three characters. -/
def compileFrom (position : Nat) (atStart : Bool) (done : List Token) :
    Mode → List Char → Except Fault (List Token)
  | .inside start .., [] => .error ⟨start, .invalidRange⟩
  | .inside start negated read, c :: rest =>
    if c = ']' then
      compileFrom (position + 1) false (setToken negated read :: done) .outside rest
    else compileFrom (position + 1) false done (.inside start negated (c :: read)) rest
  | .outside, [] => .ok done.reverse
  | .outside, '?' :: rest => compileFrom (position + 1) false (.anyChar :: done) .outside rest
  | .outside, '*' :: '*' :: '*' :: _ => .error ⟨position + 2, .wildcards⟩
  | .outside, '*' :: '*' :: rest =>
    if atStart then
      match rest with
      | [] => .ok (pushComponents done).reverse
      | '/' :: rest => compileFrom (position + 3) true (pushComponents done) .outside rest
      | _ => .error ⟨position + 2, .recursiveWildcards⟩
    else .error ⟨position - 1, .recursiveWildcards⟩
  | .outside, '*' :: rest => compileFrom (position + 1) false (.anySequence :: done) .outside rest
  | .outside, '[' :: '!' :: c :: rest =>
    compileFrom (position + 3) false done (.inside position true [c]) rest
  | .outside, '[' :: c :: rest =>
    if c = '!' then .error ⟨position, .invalidRange⟩
    else compileFrom (position + 2) false done (.inside position false [c]) rest
  | .outside, ['['] => .error ⟨position, .invalidRange⟩
  | .outside, c :: rest => compileFrom (position + 1) (c = '/') (.char c :: done) .outside rest

/-- Compiles a pattern, from its beginning, where a path component begins. -/
def compile (pattern : List Char) : Except Fault (List Token) :=
  compileFrom 0 true [] .outside pattern

/-- The outcome of matching. A text that is exhausted early cannot match with fewer characters
either, so no shorter remainder is tried. -/
inductive Verdict where
  | matched
  | mismatch
  | exhausted
  deriving DecidableEq, Repr

/-- Whether a token that stands for one character accepts it. -/
def Token.accepts : Token → Char → Bool
  | .char d, c => c == d
  | .within set, c => contains set c
  | .except set, c => !contains set c
  | .anyChar, _ | .anySequence, _ | .anyComponents, _ => true

/-- Tries every remainder of a text, the longest first, until one is not a plain mismatch. The empty
remainder is the last. -/
def tryRemainders (next : List Char → Verdict) (text : List Char) : Verdict :=
  match next text with
  | .mismatch =>
    match text with
    | [] => .mismatch
    | _ :: rest => tryRemainders next rest
  | verdict => verdict

/-- Tries every remainder that follows a slash, and then the empty one, until one is not a plain
mismatch. -/
def tryComponents (next : List Char → Verdict) : List Char → Verdict
  | [] => next []
  | c :: rest =>
    if c = '/' then
      match next rest with
      | .mismatch => tryComponents next rest
      | verdict => verdict
    else tryComponents next rest

/-- Matches a whole text. A star takes the rest of the pattern as a function on remainders, so the
recursion follows the tokens. -/
def run : List Token → List Char → Verdict
  | [], [] => .matched
  | [], _ :: _ => .mismatch
  | .anySequence :: tokens, text => tryRemainders (run tokens) text
  | .anyComponents :: tokens, text =>
    match run tokens text with
    | .mismatch => tryComponents (run tokens) text
    | verdict => verdict
  | _ :: _, [] => .exhausted
  | token :: tokens, c :: rest => if token.accepts c then run tokens rest else .mismatch

/-- Whether a text matches the tokens of a pattern; running out of text is no match. -/
def accepts (tokens : List Token) (text : List Char) : Bool := run tokens text = .matched

/-- A text as a pattern in which `*`, `?` and `[` stand for themselves: each becomes a set of one. A
closing bracket needs no such care outside of a set. -/
def escape : List Char → List Char
  | [] => []
  | c :: rest =>
    if c = '*' ∨ c = '?' ∨ c = '[' then '[' :: c :: ']' :: escape rest else c :: escape rest

end AccessGateway.Text.Glob
