/-!
# Digits up to sixteen

* `digit?` : the number of a digit or a letter from a to f, of either case;
* `value?` : the number that digits of a radix spell, none of them standing for 0;
* `fixed` : the last `n` hexadecimal digits of a number.
-/

namespace Provisioning.Hex

def digit? (c : Char) : Option Nat :=
  if '0' ≤ c && c ≤ '9' then some (c.toNat - '0'.toNat)
  else if 'a' ≤ c && c ≤ 'f' then some (c.toNat - 'a'.toNat + 10)
  else if 'A' ≤ c && c ≤ 'F' then some (c.toNat - 'A'.toNat + 10)
  else none

def isDigit (radix : Nat) (c : Char) : Bool := (digit? c).any (· < radix)

def value? (radix : Nat) (s : List Char) : Option Nat :=
  if s.all (isDigit radix) then
    some (s.foldl (fun n c => n * radix + (digit? c).getD 0) 0)
  else none

def fixed : Nat → Nat → List Char
  | 0, _ => []
  | n + 1, m => fixed n (m / 16) ++ [Nat.digitChar (m % 16)]

end Provisioning.Hex
