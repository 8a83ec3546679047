import Playthrough.Text.Hidden

/-!
# Quoted values in messages

A value that a person wrote is repeated in a message between double quotes, so that it can be told
from the words around it and every character of it can be seen.

## Main definitions

* `Text.quoted` — a text between quotes.
-/

namespace Playthrough

namespace Text

/-- A character inside quotes: a quote or a backslash behind a backslash, the usual letters for the
usual control characters, and the code point in braces for whatever does not show. -/
def quotedChar (c : Char) : List Char :=
  match c with
  | '\x00' => ['\\', '0']
  | '\t' => ['\\', 't']
  | '\r' => ['\\', 'r']
  | '\n' => ['\\', 'n']
  | '"' => ['\\', '"']
  | '\\' => ['\\', '\\']
  | c =>
    if isHidden c then '\\' :: 'u' :: '\x7b' :: (Nat.toDigits 16 c.toNat ++ ['\x7d'])
    else [c]

/-- A text between quotes. -/
def quoted (s : String) : String :=
  String.ofList ('"' :: (s.toList.flatMap quotedChar ++ ['"']))

end Text

end Playthrough
