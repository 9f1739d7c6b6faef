import Provisioning.Text.Hex
import Provisioning.Ini.Document
/-!
# Writing settings documents

* `escape` : one character of a name, key or value;
* `write` : a section after the other with an empty line between them, a value a line.
-/

namespace Provisioning.Ini

/-- A backslash and the controls are escaped; controls without a letter of their own by their code
point. -/
def escape (c : Char) : List Char :=
  if c = '\\' then ['\\', '\\']
  else if c = '\x00' then ['\\', '0']
  else if c = '\x07' then ['\\', 'a']
  else if c = '\x08' then ['\\', 'b']
  else if c = '\t' then ['\\', 't']
  else if c = '\n' then ['\\', 'n']
  else if c = '\x0b' then ['\\', 'v']
  else if c = '\x0c' then ['\\', 'f']
  else if c = '\r' then ['\\', 'r']
  else if c.toNat < 0x20 || c.toNat == 0x7F then ['\\', 'x'] ++ Hex.fixed 4 c.toNat
  else [c]

def escapeText (s : String) : List Char := s.toList.flatMap escape

def writeHeader (name : Option String) : List Char :=
  match name with
  | none => []
  | some name => '[' :: (escapeText name ++ [']', '\n'])

def writeEntry (entry : String × String) : List Char :=
  escapeText entry.1 ++ '=' :: (escapeText entry.2 ++ ['\n'])

def writeSection (s : Section) : List Char :=
  writeHeader s.name ++ s.values.flatMap writeEntry

def writeSections : List Section → List Char
  | [] => []
  | [s] => writeSection s
  | s :: r => writeSection s ++ '\n' :: writeSections r

def write (d : Document) : List Char := writeSections d.sections

end Provisioning.Ini
