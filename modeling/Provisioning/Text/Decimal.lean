/-!
# Decimal numbers

* `isDigits` : one or more ASCII digits;
* `value` : the number that digits spell, the first digit being the highest;
* `unsigned?` : an optional plus sign and digits, below a limit;
* `signed?` : the same with either sign;
* `render`, `padded` : a number in digits, and filled up with zeros to a width.
-/

namespace Provisioning.Decimal

/-- Counts and identifiers stay below this. -/
def countLimit : Nat := UInt64.size

def portLimit : Nat := UInt16.size

def isDigits (s : List Char) : Bool := !s.isEmpty && s.all Char.isDigit

def value (s : List Char) : Nat := Nat.ofDigitChars 10 s 0

def unsignedDigits : List Char → List Char
  | '+' :: r => r
  | s => s

/-- Reads an optional plus sign and digits whose number is below `limit`. -/
def unsigned? (limit : Nat) (s : List Char) : Option Nat :=
  let digits := unsignedDigits s
  if isDigits digits && value digits < limit then some (value digits) else none

/-- Reads digits after an optional sign, for numbers from `-limit` up to below `limit`. -/
def signed? (limit : Nat) : List Char → Option Int
  | '-' :: r => if isDigits r && value r ≤ limit then some (-(value r : Int)) else none
  | s => (unsigned? limit s).map Int.ofNat

def render (n : Nat) : List Char := Nat.toDigits 10 n

/-- The digits of `n`, with zeros in front up to `width` characters. -/
def padded (width n : Nat) : List Char := (render n).leftpad width '0'

end Provisioning.Decimal
