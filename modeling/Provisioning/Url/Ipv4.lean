import Provisioning.Text.Split
import Provisioning.Text.Decimal
import Provisioning.Text.Hex
/-!
# IPv4 addresses in a host

* `number?` : one part of an address, in hexadecimal after `0x`, in octal after `0`, else in
  decimal;
* `endsInNumber` : whether a host has to be read as an address;
* `parse?` : an address of one to four parts, of which the last fills what the others leave;
* `render` : four decimal parts.
-/

namespace Provisioning.Ipv4
open Text

def number? : List Char → Option Nat
  | [] => none
  | '0' :: 'x' :: r => Hex.value? 16 r
  | '0' :: 'X' :: r => Hex.value? 16 r
  | '0' :: c :: r => Hex.value? 8 (c :: r)
  | s => Hex.value? 10 s

/-- The parts of a host; one dot at its end adds none. -/
def parts (s : List Char) : List (List Char) :=
  let ps := splitOn '.' s
  if ps.getLast? = some [] then ps.dropLast else ps

def endsInNumber (s : List Char) : Bool :=
  match (parts s).getLast? with
  | none => false
  | some p => Decimal.isDigits p || (number? p).isSome

def parse? (s : List Char) : Option UInt32 := do
  let ps := parts s
  if ps.length ≤ 4 then
    let ns ← ps.mapM number?
    let last ← ns.getLast?
    let front := ns.dropLast
    let room := Nat.pow 256 (4 - front.length)
    if front.all (· < 256) && last < room then
      return UInt32.ofNat (front.foldl (fun a n => a * 256 + n) 0 * room + last)
  none

def render (a : UInt32) : List Char :=
  let n := a.toNat
  joinWith ['.'] ([n / 16777216, n / 65536 % 256, n / 256 % 256, n % 256].map Decimal.render)

end Provisioning.Ipv4
