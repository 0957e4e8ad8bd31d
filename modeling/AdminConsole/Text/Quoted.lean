import AdminConsole.Text.Hex
import AdminConsole.Text.Visibility

/-!
# Quoted text

A text between double quotes, with every character that could not be told apart on a screen
written as an escape: quotes, backslashes and the usual controls by a letter, hidden characters
and extending characters by their number in braces.
-/

namespace AdminConsole.Text

/-- The escape of one character by its number, as in `\u{301}`. -/
def numbered (c : Char) : List Char :=
  ['\\', 'u', '\x7b'] ++ Hex.digits c.toNat ++ ['\x7d']

/-- One character as it stands between the quotes. -/
def quotedChar (c : Char) : List Char :=
  if c == Char.ofNat 0 then ['\\', '0']
  else if c == '\t' then ['\\', 't']
  else if c == '\r' then ['\\', 'r']
  else if c == '\n' then ['\\', 'n']
  else if c == '"' then ['\\', '"']
  else if c == '\\' then ['\\', '\\']
  else if isExtending c || isHidden c then numbered c
  else [c]

/-- The text in double quotes. -/
def quoted (s : String) : String :=
  String.ofList ('"' :: s.toList.flatMap quotedChar ++ ['"'])

end AdminConsole.Text
