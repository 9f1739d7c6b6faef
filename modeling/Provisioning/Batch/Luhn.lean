/-!
# Luhn check digits

An ICCID is declared either as a payload of 18 digits or with its check digit behind it.

* `weighted` : what a digit adds to the sum, doubled at even distance from the right end;
* `sum` : the sum over the digits, given from the right;
* `checkDigit?` : the digit that completes a payload; `none` unless it is one or more ASCII digits;
* `append?` : the payload with its check digit;
* `payload` : the first 18 bytes of a longer text, if they end between two characters.
-/

namespace Provisioning.Luhn

/-- Digits of an ICCID without its check digit. -/
def payloadLength : Nat := 18

def digitValue (c : Char) : Nat := c.toNat - '0'.toNat

/-- A doubled digit counts with its digit sum. -/
def weighted (doubled : Bool) (d : Nat) : Nat :=
  if doubled then (if 2 * d > 9 then 2 * d - 9 else 2 * d) else d

def sum : Bool → List Char → Nat
  | _, [] => 0
  | doubled, c :: r => weighted doubled (digitValue c) + sum (!doubled) r

/-- The check digit will stand at the right end, so the last digit of the payload is doubled. -/
def checkDigit? (s : String) : Option Nat :=
  let cs := s.toList
  if !cs.isEmpty && cs.all Char.isDigit then some ((10 - sum true cs.reverse % 10) % 10) else none

def append? (s : String) : Option String :=
  (checkDigit? s).map fun d => s.push (Nat.digitChar d)

/-- The characters that fill exactly `n` bytes of UTF-8, if some do. -/
def takeBytes? : Nat → List Char → Option (List Char)
  | 0, _ => some []
  | _ + 1, [] => none
  | n + 1, c :: r =>
    if c.utf8Size ≤ n + 1 then (takeBytes? (n + 1 - c.utf8Size) r).map (c :: ·) else none

/-- An ICCID without its check digit. -/
def payload (s : String) : String :=
  if payloadLength < s.utf8ByteSize then
    match takeBytes? payloadLength s.toList with
    | some cs => String.ofList cs
    | none => s
  else s

end Provisioning.Luhn
