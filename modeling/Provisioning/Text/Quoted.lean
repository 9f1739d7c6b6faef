import Provisioning.Text.Unprintable
/-!
# Quoted text

A text shown on one line between double quotes.

* `escape` : one character as it stands between the quotes;
* `quote` : the whole text.

A quote, a backslash and the four common controls take a backslash and a letter, all else that
cannot be shown takes `\u` and its code point in hexadecimal.
-/

namespace Provisioning.Text

def escape (c : Char) : List Char :=
  if c = '"' then ['\\', '"']
  else if c = '\\' then ['\\', '\\']
  else if c = '\n' then ['\\', 'n']
  else if c = '\r' then ['\\', 'r']
  else if c = '\t' then ['\\', 't']
  else if c = '\x00' then ['\\', '0']
  else if isUnprintable c then
    ['\\', 'u', '\x7b'] ++ Nat.toDigits 16 c.toNat ++ ['\x7d']
  else [c]

def quote (s : String) : String := String.ofList ('"' :: (s.toList.flatMap escape ++ ['"']))

end Provisioning.Text
