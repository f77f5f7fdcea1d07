import AccessGateway.Json.Value
import AccessGateway.Text.Hexadecimal
import AccessGateway.Text.Numeral

/-!
# `AccessGateway.Json.Printer`: JSON text

Two layouts of one value: `Json.compact` without any blank, and `Json.pretty` with two
blanks of indentation a level and one member a line. Answers and the payload of a token are
compact, and what the program prints for a reader is laid out. The layouts share the
escapes of strings and the digits of numbers, so they differ in blanks alone.

Both are functions of the value as it stands, members in the order given. That the compact text
of the objects a token is made of is read back is `read?_obj` (`AccessGateway.Proofs.Json.Object`).
-/

set_option autoImplicit false

namespace AccessGateway.Json

/-- A character inside a JSON string: quote, backslash and control characters are escaped, all
others stand for themselves. A control character without a letter of its own is written with two
hexadecimal digits, which suffice below 32. -/
def escapeChar (c : Char) : List Char :=
  match c with
  | '"' => ['\\', '"']
  | '\\' => ['\\', '\\']
  | '\n' => ['\\', 'n']
  | '\r' => ['\\', 'r']
  | '\t' => ['\\', 't']
  | '\x08' => ['\\', 'b']
  | '\x0c' => ['\\', 'f']
  | c =>
    if c.toNat < 0x20 then
      ['\\', 'u', '0', '0', Text.hexDigit (c.toNat / 16), Text.hexDigit c.toNat]
    else [c]

/-- A string in quotes, each of its characters escaped where it must be. -/
def quote (text : String) : List Char :=
  '"' :: (text.toList.flatMap escapeChar ++ ['"'])

/-- A number that is no whole number of a word, as mantissa and exponent. The text is exact, and the
reader takes it apart again. -/
def decimalText (mantissa exponent : Int) : List Char :=
  Text.Numeral.ofInt mantissa ++ 'e' :: Text.Numeral.ofInt exponent

mutual

/-- The characters of a value, without any blank, its members in the order in which they stand. -/
def chars : Json → List Char
  | .null => ['n', 'u', 'l', 'l']
  | .bool true => ['t', 'r', 'u', 'e']
  | .bool false => ['f', 'a', 'l', 's', 'e']
  | .num value => Text.Numeral.ofInt value
  | .decimal mantissa exponent => decimalText mantissa exponent
  | .str text => quote text
  | .arr items => '[' :: (itemChars items ++ [']'])
  | .obj members => '\x7b' :: (memberChars members ++ ['\x7d'])

/-- The items of an array with commas between them, and none behind the last. -/
def itemChars : List Json → List Char
  | [] => []
  | [item] => item.chars
  | item :: rest => item.chars ++ ',' :: itemChars rest

/-- The members of an object with commas between them: key, colon and value. -/
def memberChars : List (String × Json) → List Char
  | [] => []
  | [(key, value)] => quote key ++ ':' :: value.chars
  | (key, value) :: rest => quote key ++ ':' :: (value.chars ++ ',' :: memberChars rest)

end

/-- A value on one line, without any blank. This is the form of every body on the wire. -/
def compact (value : Json) : String := String.ofList value.chars

/-- A new line, indented by two blanks a level. -/
def newLine (level : Nat) : List Char := '\n' :: List.replicate (2 * level) ' '

mutual

/-- The characters of a value laid out from an indentation level on. An empty array or object stays
on its line, and whatever is neither is written as in `chars`. -/
def prettyChars (level : Nat) : Json → List Char
  | .arr [] => ['[', ']']
  | .obj [] => ['\x7b', '\x7d']
  | .arr items => '[' :: (prettyItems (level + 1) items ++ newLine level ++ [']'])
  | .obj members => '\x7b' :: (prettyMembers (level + 1) members ++ newLine level ++ ['\x7d'])
  | value => value.chars

/-- The items of an array, one a line, each at this level. -/
def prettyItems (level : Nat) : List Json → List Char
  | [] => []
  | [item] => newLine level ++ prettyChars level item
  | item :: rest => newLine level ++ prettyChars level item ++ ',' :: prettyItems level rest

/-- The members of an object, one a line, with a blank behind the colon. -/
def prettyMembers (level : Nat) : List (String × Json) → List Char
  | [] => []
  | [(key, value)] => newLine level ++ quote key ++ ':' :: ' ' :: prettyChars level value
  | (key, value) :: rest =>
    newLine level ++ quote key ++ ':' :: ' ' :: (prettyChars level value ++
      ',' :: prettyMembers level rest)

end

/-- A value over several lines, the outermost at no indentation. -/
def pretty (value : Json) : String := String.ofList (prettyChars 0 value)

end AccessGateway.Json
