import Reactor.Text.Printable

/-!
Quoted text. Inside double quotes the quote and the backslash carry a backslash, the common
control characters have a letter, and every other character without a glyph of its own is
written as its code point in hexadecimal.
-/

namespace Reactor.Text

def quotedChar (char : Char) : List Char :=
  match char with
  | '\x00' => ['\\', '0']
  | '\t' => ['\\', 't']
  | '\r' => ['\\', 'r']
  | '\n' => ['\\', 'n']
  | '"' => ['\\', '"']
  | '\\' => ['\\', '\\']
  | _ =>
    if isPrintable char then
      [char]
    else
      ['\\', 'u', '\x7b'] ++ Nat.toDigits 16 char.toNat ++ ['\x7d']

/-- The text between double quotes, with its escapes. -/
def quoted (text : String) : String :=
  String.ofList ('"' :: text.toList.flatMap quotedChar ++ ['"'])

end Reactor.Text
