/-
A text in double quotes, so that a message shows where it begins and ends.

The quote, the backslash, the line ends, the tab and NUL have short escapes.
Other characters that print nothing of their own are spelled by number
(`isUnprinted`); all the rest stand for themselves, the single quote too.
-/
import Telemetry.Text.Unprinted

namespace Telemetry.Text

def numbered (c : Char) : List Char :=
  ['\\', 'u', '\x7b'] ++ Nat.toDigits 16 c.toNat ++ ['\x7d']

def quotedChar (c : Char) : List Char :=
  if c = '"' then ['\\', '"']
  else if c = '\\' then ['\\', '\\']
  else if c = '\n' then ['\\', 'n']
  else if c = '\r' then ['\\', 'r']
  else if c = '\t' then ['\\', 't']
  else if c = '\x00' then ['\\', '0']
  else if isUnprinted c then numbered c
  else [c]

def quoted (s : String) : String :=
  String.ofList ('"' :: s.toList.flatMap quotedChar ++ ['"'])

end Telemetry.Text
