/-!
# `AccessGateway.Text.Split`: cutting text at separators

Header values, list parameters and configuration keys all arrive as one text that is cut
at separators. Everything here works on `List Char`, where a cut is a structural recursion and
its lemmas are inductions on the text; a `String` is taken apart once, where it arrives.

A cut at the first separator and a cut at all of them are different functions, because what
stands behind the first separator may hold further ones, as the value of a parameter may.
-/

set_option autoImplicit false

namespace AccessGateway.Text

/-- The text before the first character that satisfies `p`, that character, and the text after it.
There is no cut where no character does. -/
def splitFirst? (p : Char → Bool) : List Char → Option (List Char × Char × List Char)
  | [] => none
  | c :: rest =>
    if p c then some ([], c, rest)
    else (splitFirst? p rest).map fun (before, sep, after) => (c :: before, sep, after)

/-- The texts before and after the first `sep`. The text before holds none; the one after may. -/
def splitOnce? (sep : Char) (text : List Char) : Option (List Char × List Char) :=
  (splitFirst? (· == sep) text).map fun (before, _, after) => (before, after)

/-- All pieces between occurrences of `sep`; there is always at least one. Two separators in a row
have an empty piece between them, and the empty text is one empty piece. -/
def pieces (sep : Char) : List Char → List (List Char)
  | [] => [[]]
  | c :: rest =>
    if c == sep then [] :: pieces sep rest
    else match pieces sep rest with
      | [] => [[c]]
      | piece :: others => (c :: piece) :: others

/-- The pieces between occurrences of `sep` that hold at least one character, so repeated separators
count as one. -/
def nonemptyPieces (sep : Char) (text : List Char) : List (List Char) :=
  (pieces sep text).filter fun piece => !piece.isEmpty

/-- Whether `needle` occurs as a contiguous part of the text. The empty needle occurs in every
text. -/
def contains (needle : List Char) : List Char → Bool
  | [] => needle.isEmpty
  | text@(_ :: rest) => needle.isPrefixOf text || contains needle rest

/-- The text after `start`, if the text starts with it; the start is cut off once only. -/
def dropStart? (start : List Char) (text : List Char) : Option (List Char) :=
  if start.isPrefixOf text then some (text.drop start.length) else none

/-- The text before `ending`, if the text ends with it; the ending is cut off once only. -/
def dropEnd? (ending : List Char) (text : List Char) : Option (List Char) :=
  if ending.isSuffixOf text then some (text.take (text.length - ending.length)) else none

/-- Removes the characters that satisfy `p` from both ends, and none from between. -/
def trimBy (p : Char → Bool) (text : List Char) : List Char :=
  ((text.dropWhile p).reverse.dropWhile p).reverse

end AccessGateway.Text
