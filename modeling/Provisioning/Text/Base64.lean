/-!
# Base64

* `digit?` : the six bits of a character of the standard alphabet;
* `ofDigits?` : the bytes that groups of six bits make up; bits that are left over have to be zero;
* `decode?` : the bytes of a text; the padding at its end may be left out in part or at all.
-/

namespace Provisioning.Base64

def digit? (c : Char) : Option Nat :=
  if c.isUpper then some (c.toNat - 'A'.toNat)
  else if c.isLower then some (c.toNat - 'a'.toNat + 26)
  else if c.isDigit then some (c.toNat - '0'.toNat + 52)
  else if c = '+' then some 62
  else if c = '/' then some 63
  else none

def ofDigits? : List Nat → Option (List UInt8)
  | [] => some []
  | [_] => none
  | [a, b] => if b % 16 = 0 then some [UInt8.ofNat (a * 4 + b / 16)] else none
  | [a, b, c] =>
    if c % 4 = 0 then some [UInt8.ofNat (a * 4 + b / 16), UInt8.ofNat (b % 16 * 16 + c / 4)]
    else none
  | a :: b :: c :: d :: r => (ofDigits? r).map fun bytes =>
    UInt8.ofNat (a * 4 + b / 16) :: UInt8.ofNat (b % 16 * 16 + c / 4) ::
      UInt8.ofNat (c % 4 * 64 + d) :: bytes

/-- The padding that completes a last group of four. -/
def isPadding (digits : Nat) (s : List Char) : Bool :=
  s.all (· == '=') && s.length ≤ (4 - digits % 4) % 4

def decode? (s : List Char) : Option (List UInt8) := do
  let (text, padding) := s.span (· != '=')
  if isPadding text.length padding then ofDigits? (← text.mapM digit?) else none

end Provisioning.Base64
