import Provisioning.Text.Decimal
import Provisioning.Batch.Luhn
import Provisioning.Batch.Rejection
/-!
# Identifier ranges

A family of identifiers runs from a first to a last number in steps of one, up or down.

* `Increment` : the direction; `Increment.step` is the signed step;
* `Range` : first and last number, and the width that written identifiers are filled up to;
* `Range.parse`, `Range.parseIccid` : a range from its written ends; for ICCIDs without their check
  digits;
* `Range.length`, `Range.increment`, `Range.nth?` : how many, which way, and the identifiers.
-/

namespace Provisioning.Batch

inductive Increment
  | up
  | down
  deriving DecidableEq, Repr

namespace Increment

def step : Increment → Int
  | up => 1
  | down => -1

def label : Increment → String
  | up => "+1"
  | down => "-1"

end Increment

structure Range where
  first : Nat
  last : Nat
  width : Nat
  deriving DecidableEq, Repr

namespace Range

def length (r : Range) : Nat := (r.last - r.first) + (r.first - r.last) + 1

/-- A range of one identifier counts up. -/
def increment (r : Range) : Increment := if r.first ≤ r.last then .up else .down

/-- The number of the identifier at `i`, for an `i` below the length. -/
def number (r : Range) (i : Nat) : Nat :=
  match r.increment with
  | .up => r.first + i
  | .down => r.first - i

/-- The identifier at `i`, filled up with zeros; `none` past the end. -/
def nth? (r : Range) (i : Nat) : Option String :=
  if i < r.length then some (String.ofList (Decimal.padded r.width (r.number i))) else none

def parseEnd (which label raw : String) : Except Rejection Nat :=
  match Decimal.unsigned? Decimal.countLimit raw.toList with
  | some n => .ok n
  | none => .error (.invalidFormat (which ++ " " ++ label) raw "not a decimal number")

/-- Reads a range. Its length has to be countable as well, which only the widest range is not. -/
def parse (label first last : String) : Except Rejection Range := do
  let a ← parseEnd "first" label first
  let b ← parseEnd "last" label last
  let r : Range := ⟨a, b, first.utf8ByteSize⟩
  if r.length < Decimal.countLimit then
    return r
  else
    throw (.invalidFormat (label ++ " range") (first ++ ".." ++ last)
      "more identifiers than can be counted")

def parseIccid (first last : String) : Except Rejection Range :=
  parse "iccid" (Luhn.payload first) (Luhn.payload last)

end Range

end Provisioning.Batch
