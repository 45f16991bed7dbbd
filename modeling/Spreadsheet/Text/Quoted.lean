import Spreadsheet.Text.Unprintable

/-!
# Quoted texts in messages

A text is quoted so that every character of it can be seen: quotes, backslashes and the common
controls have short escapes, and other unprintable characters are shown by their code point.
-/

namespace Spreadsheet.Text

/-- The characters that show one character of a quoted text. -/
def quotedChar (c : Char) : List Char :=
  match c with
  | '"' => ['\\', '"']
  | '\\' => ['\\', '\\']
  | '\t' => ['\\', 't']
  | '\n' => ['\\', 'n']
  | '\r' => ['\\', 'r']
  | '\x00' => ['\\', '0']
  | c =>
    if isUnprintable c then
      ['\\', 'u', '\x7b'] ++ Nat.toDigits 16 c.toNat ++ ['\x7d']
    else [c]

/-- A text in quotes, with every character of it visible. -/
def quoted (s : String) : String :=
  String.ofList ('"' :: s.toList.flatMap quotedChar ++ ['"'])

end Spreadsheet.Text
