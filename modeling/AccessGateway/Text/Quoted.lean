import AccessGateway.Text.Hexadecimal
import AccessGateway.Text.Printable

/-!
# `AccessGateway.Text.Quoted`: names in messages

Messages show names in double quotes. Quote and backslash are escaped by a backslash, the
common controls by a letter, and every other character without a graphic form of its own by
its code point in hexadecimal. A name therefore cannot end its own quotation, and two names
that look alike for want of a visible character are told apart.
-/

set_option autoImplicit false

namespace AccessGateway.Text

/-- A character inside of quotes: itself where it can be shown, or its escape. The code point stands
in braces, with as many digits as it needs. -/
def quotedChar (c : Char) : List Char :=
  match c with
  | '\x00' => ['\\', '0']
  | '\t' => ['\\', 't']
  | '\r' => ['\\', 'r']
  | '\n' => ['\\', 'n']
  | '\\' => ['\\', '\\']
  | '"' => ['\\', '"']
  | c => if isPrintable c then [c] else '\\' :: 'u' :: '\x7b' :: (hexDigits c.toNat ++ ['\x7d'])

/-- A text in quotes, each of its characters escaped where it must be. -/
def quoted (text : String) : String :=
  String.ofList ('"' :: (text.toList.flatMap quotedChar ++ ['"']))

end AccessGateway.Text
