/-
Quoted text: how a message shows a string that came from outside.

A quoted text stands between double quotes on one line, whatever the string holds: the quote,
the backslash and the four named controls are written with a backslash, and a character that
cannot be seen on its own is written by its number.

Main definitions:
* `Text.isHidden` — the characters that are written by number;
* `Text.escape` — one character as it stands inside the quotes;
* `Text.quoted` — a whole string with its quotes.
-/
import ProfiledSocket.Text.Extending
import ProfiledSocket.Text.Ignorable
import ProfiledSocket.Text.Nongraphic

namespace ProfiledSocket.Text

/-- The halfwidth voicing marks extend the kana before them but fill a cell of their own, so
they can be seen. -/
def voicingMarks : Ranges := [(0xff9e, 0xff9f)]

/-- Whether `c` cannot be seen, or only as part of the character before it. -/
def isHidden (c : Char) : Bool :=
  nongraphic.holds c || ignorable.holds c || (extending.holds c && !voicingMarks.holds c)

/-- The number of `c` in hexadecimal between braces, after a backslash and a `u`. -/
def byNumber (c : Char) : List Char :=
  ['\\', 'u', '\x7b'] ++ Nat.toDigits 16 c.toNat ++ ['\x7d']

/-- How `c` stands inside the quotes. -/
def escape (c : Char) : List Char :=
  if c = '"' then ['\\', '"']
  else if c = '\\' then ['\\', '\\']
  else if c = '\n' then ['\\', 'n']
  else if c = '\r' then ['\\', 'r']
  else if c = '\t' then ['\\', 't']
  else if c = '\x00' then ['\\', '0']
  else if isHidden c then byNumber c
  else [c]

/-- `s` between double quotes, every character escaped. -/
def quoted (s : String) : String :=
  String.ofList ('"' :: s.toList.flatMap escape ++ ['"'])

end ProfiledSocket.Text
