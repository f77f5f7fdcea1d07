/-!
# `AccessGateway.Text.Fill`: words on lines

A text is cut into words, each with the blanks behind it, and the words are put on lines, as many
on each as fit. No word is broken, so a word that is wider than a line has one of its own. The
blanks stay with the word before them, which keeps runs of blanks as they were inside of a line
and drops them at its end. The descriptions in the help of the command line are set this way.
-/

set_option autoImplicit false

namespace AccessGateway.Text

/-- The words of a text, each with the blanks behind it, so that the text is their concatenation. A
new word begins where a blank is followed by another character. -/
def words : List Char → List (List Char)
  | [] => []
  | c :: rest =>
    match words rest with
    | [] => [[c]]
    | word :: others =>
      if c = ' ' ∧ word.head? ≠ some ' ' then [c] :: word :: others else (c :: word) :: others

/-- A line without the blanks at its end. They do not count for its width either. -/
def trimBlanks (line : List Char) : List Char := (line.reverse.dropWhile (· == ' ')).reverse

/-- Puts words behind those that a line holds, and on further lines when they do not fit. An empty
line takes its first word whatever its width. -/
def fill (width : Nat) : List Char → List (List Char) → List (List Char)
  | line, [] => [line]
  | line, word :: rest =>
    if line ≠ [] ∧ width < line.length + (trimBlanks word).length then
      trimBlanks line :: fill width word rest
    else fill width (line ++ word) rest

/-- The lines of a text, no wider than `width` but for a line of one word that is. The empty text
has one empty line. -/
def linesWithin (width : Nat) (text : List Char) : List (List Char) := fill width [] (words text)

end AccessGateway.Text
