import Provisioning.Text.Utf8
import Provisioning.Text.Split
import Provisioning.Unicode.Mapping
import Provisioning.Unicode.Mark
import Provisioning.Unicode.Direction
import Provisioning.Unicode.Joining
import Provisioning.Url.Punycode
/-!
# Domain names

A domain name may be written with letters of any script; it stands for an ASCII name.

* `mapped?` : the name with capitals, wide forms and the like replaced;
* `Label` : one part of the name, as it is read and as it is written in ASCII;
* `Label.ofText?` : the label of a mapped text, Punycode read;
* `isDenied` : the ASCII characters that no name has;
* `toAscii?` : the ASCII name; `none` for bytes that are no domain name.
-/

namespace Provisioning.Domain
open Text Unicode

def mappedChar? (c : Char) : Option (List Char) :=
  match treatment c with
  | .keep => some [c]
  | .drop => some []
  | .refuse => none
  | .replace t => some t

def mapped? (s : List Char) : Option (List Char) :=
  (s.mapM mappedChar?).map fun ts => normalize ts.flatten

def isDenied (c : Char) : Bool :=
  c.toNat ≤ 0x20 || c.toNat == 0x7F
    || ['%', '#', '/', ':', '<', '>', '?', '@', '[', '\\', ']', '^', '|'].contains c

structure Label where
  shown : List Char
  written : List Char
  deriving DecidableEq, Repr

namespace Label

/-- A label starts with no mark, and its joiners stand where they may. -/
def isWellFormed (s : List Char) : Bool := !s.head?.any isMark && keepsJoiners s

/-- A label in Punycode has to stand for a text that needs it and that mapping leaves alone. -/
def ofPunycode? (digits : List Char) : Option (List Char) := do
  let s ← Punycode.decode? digits
  if s.all Punycode.isAscii || mapped? s != some s then none else some s

def ofText? (s : List Char) : Option Label := do
  match s with
  | 'x' :: 'n' :: '-' :: '-' :: digits =>
    let t ← ofPunycode? digits
    if isWellFormed t then some ⟨t, s⟩ else none
  | _ =>
    if s.all Punycode.isAscii then some ⟨s, s⟩
    else if isWellFormed s then some ⟨s, ['x', 'n', '-', '-'] ++ Punycode.encode s⟩
    else none

end Label

/-- With letters that are written from right to left, each label has one reading order. -/
def keepDirection (labels : List Label) : Bool :=
  !labels.any (·.shown.any isRightToLeft) || labels.all (keepsDirection ·.shown)

def toAscii? (bytes : List UInt8) : Option (List Char) := do
  let text ← Utf8.decode? bytes
  let s ← mapped? text.toList
  let labels ← (splitOn '.' s).mapM Label.ofText?
  let name := joinWith ['.'] (labels.map (·.written))
  if keepDirection labels && !name.any isDenied then some name else none

end Provisioning.Domain
