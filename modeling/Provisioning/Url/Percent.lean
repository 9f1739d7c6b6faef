import Provisioning.Text.Utf8
import Provisioning.Text.Hex
/-!
# Percent encoding

* `decode` : bytes with each `%` and two hexadecimal digits read as one byte;
* `encode` : characters of a set, and all that are not ASCII, written as the bytes of their UTF-8;
* `inQuery`, `inSpecialQuery`, `inFragment`, `inUserinfo`, `inControls` : the sets.
-/

namespace Provisioning.Percent

def digit? (b : UInt8) : Option Nat := Hex.digit? (Char.ofNat b.toNat)

def decode : List UInt8 → List UInt8
  | [] => []
  | c :: r =>
    match r with
    | a :: b :: t =>
      if c == 0x25 then
        match digit? a, digit? b with
        | some x, some y => UInt8.ofNat (x * 16 + y) :: decode t
        | _, _ => c :: decode (a :: b :: t)
      else c :: decode (a :: b :: t)
    | r => c :: decode r

def encodeByte (b : UInt8) : List Char :=
  ['%', (Nat.digitChar (b.toNat / 16)).toUpper, (Nat.digitChar (b.toNat % 16)).toUpper]

def encode (set : Char → Bool) (s : List Char) : List Char :=
  s.flatMap fun c =>
    if 0x7F ≤ c.toNat || set c then (String.utf8EncodeChar c).flatMap encodeByte else [c]

def inControls (c : Char) : Bool := c.toNat < 0x20

def inFragment (c : Char) : Bool := c.toNat ≤ 0x20 || ['"', '<', '>', '\x60'].contains c

def inQuery (c : Char) : Bool := c.toNat ≤ 0x20 || ['"', '#', '<', '>'].contains c

def inSpecialQuery (c : Char) : Bool := inQuery c || c == '\''

def inUserinfo (c : Char) : Bool :=
  inQuery c
    || ['?', '\x60', '\x7b', '\x7d', '/', ':', ';', '=', '@', '[', '\\', ']', '^', '|'].contains c

end Provisioning.Percent
